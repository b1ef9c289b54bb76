import Bearer.Text.Marks
import Bearer.Url.Permitted

/-!
# Directions

Scripts run from the left or from the right, and a label of a host name must not mix them. Each
character that may stand in a label has a direction; most run from the left. The tables hold for
these characters only.
-/
namespace Bearer.Url

/-- The direction of a character. -/
inductive Direction where
  /-- From the left. -/
  | left
  /-- From the right. -/
  | right
  /-- From the right, as in Arabic. -/
  | arabicLetter
  /-- A digit as in Arabic. -/
  | arabicDigit
  /-- A digit as in Europe. -/
  | europeanDigit
  /-- A mark, that goes with the character it is put on. -/
  | mark
  /-- None of its own. -/
  | neutral
deriving DecidableEq, Repr

/-- The characters that run from the right. -/
def rightward : Text.Ranges :=
  [(0x5d0, 0x5f4), (0x7c0, 0x7ea), (0x7f4, 0x7f5), (0x800, 0x815), (0x81a, 0x81a), (0x824, 0x824),
   (0x828, 0x828), (0x840, 0x858), (0x10800, 0x10a00), (0x10a10, 0x10a35), (0x10a60, 0x10ae4),
   (0x10b00, 0x10cf2), (0x10e80, 0x10ea9), (0x10eb0, 0x10f27), (0x10f70, 0x10f81),
   (0x10fb0, 0x10ff6), (0x1e800, 0x1e8c4), (0x1e922, 0x1e943), (0x1e94b, 0x1e959)]

/-- Those that do as in Arabic. -/
def arabicLetters : Text.Ranges :=
  [(0x620, 0x64a), (0x66e, 0x66f), (0x671, 0x6d5), (0x6e5, 0x6e6), (0x6ee, 0x6ef), (0x6fa, 0x710),
   (0x712, 0x72f), (0x74d, 0x7a5), (0x7b1, 0x7b1), (0x860, 0x88e), (0x8a0, 0x8c9), (0xfe73, 0xfe73),
   (0x10d00, 0x10d23), (0x10f30, 0x10f45)]

/-- Digits as in Arabic. -/
def arabicDigits : Text.Ranges :=
  [(0x660, 0x669), (0x10d30, 0x10d39)]

/-- Digits as in Europe. -/
def europeanDigits : Text.Ranges :=
  [(0x30, 0x39), (0x6f0, 0x6f9)]

/-- Characters without a direction of their own. -/
def neutrals : Text.Ranges :=
  [(0x2d, 0x2d), (0xb7, 0xb7), (0x2b9, 0x2ba), (0x2c6, 0x2cf), (0x2ec, 0x2ec), (0x375, 0x375),
   (0x200c, 0x200d), (0x2e2f, 0x2e2f), (0x30fb, 0x30fb), (0xa67f, 0xa67f), (0xa717, 0xa71f),
   (0xa788, 0xa788)]

/-- Marks that run from the left. -/
def leftMarks : Text.Ranges :=
  [(0xcbf, 0xcbf), (0xcc6, 0xcc6), (0x11a07, 0x11a08), (0x11c3f, 0x11c3f)]

/-- The direction of a character that may stand in a label, if it is known. -/
def direction? (n : Nat) : Option Direction :=
  if unfamiliar.contains n then none
  else if Text.isNonspacing n && !leftMarks.contains n then some .mark
  else if rightward.contains n then some .right
  else if arabicLetters.contains n then some .arabicLetter
  else if arabicDigits.contains n then some .arabicDigit
  else if europeanDigits.contains n then some .europeanDigit
  else if neutrals.contains n then some .neutral
  else some .left

end Bearer.Url
