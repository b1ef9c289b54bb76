import Bearer.Text.Cursive
import Bearer.Text.Normal
import Bearer.Text.Script
import Bearer.Url.Direction
import Bearer.Url.Punycode

/-!
# Labels

The parts of a host name between its dots. A label is in normal form, does not start with a mark,
has no hyphen at an end, and none together behind its first two characters. It consists of permitted
characters; a few others may stand in it where their neighbours allow that. A label with characters
from the right starts with one, has none from the left, and does not mix the kinds of digits.

In ASCII text a label with other characters is written in Punycode behind `xn--`.

* `write?_length_le`: no label in ASCII text is longer than 63 characters.
-/
namespace Bearer.Url

/-- Why a text is no label. -/
inductive LabelFault where
  /-- It is empty, too long, not in normal form, or has a hyphen or a mark where none may stand. -/
  | malformed
  /-- It is not in Punycode. -/
  | encoding
  /-- Nothing is known of the character in front of a joiner. -/
  | neighbour
  /-- A joiner stands where its neighbours do not allow it. -/
  | joiner
  /-- It holds a character that is not permitted. -/
  | character
  /-- It holds another character where its neighbours do not allow it. -/
  | context
  /-- It mixes directions, or the direction of a character is not known. -/
  | direction
deriving DecidableEq, Repr

namespace Label

/-! ## Characters -/

/-- Whether the joiner that parts two letters may stand between others; those in front are in
reverse. It may where the letters would join. -/
def partsLetters (before after : List Nat) : Bool :=
  (before.dropWhile Text.isTransparent).head?.any Text.joinsForward &&
    (after.dropWhile Text.isTransparent).head?.any Text.joinsBackward

/-- Checks a joiner. Both joiners may stand behind a mark that drops the vowel of a letter. -/
def checkJoiner (before : List Nat) (n : Nat) (after : List Nat) : Except LabelFault Unit :=
  let inContext := if n = 0x200c && partsLetters before after then .ok () else .error .joiner
  match before with
  | [] => inContext
  | p :: _ =>
    if unfamiliar.contains p then .error .neighbour
    else if Text.combiningClass p = 9 then .ok ()
    else inContext

/-- Whether a code point is a digit as in Arabic. -/
def isArabicDigit (n : Nat) : Bool := 0x660 ≤ n && n ≤ 0x669

/-- Whether a code point is a digit as in Persian and Urdu. -/
def isPersianDigit (n : Nat) : Bool := 0x6f0 ≤ n && n ≤ 0x6f9

/-- Whether a character that depends on its neighbours may stand where it stands; absent for any
other character. The middle dot stands between two l, the Greek numeral sign in front of a Greek
letter, Hebrew punctuation behind a Hebrew one, and the middle dot of katakana in East Asian text.
The two kinds of Arabic digits exclude each other. -/
def inContext? (label before : List Nat) (n : Nat) (after : List Nat) : Option Bool :=
  if n = 0xb7 then some (before.head? == some 0x6c && after.head? == some 0x6c)
  else if n = 0x375 then some (after.head?.any Text.greek.contains)
  else if n = 0x5f3 || n = 0x5f4 then some (before.head?.any Text.hebrew.contains)
  else if n = 0x30fb then some (label.any Text.isEastAsian)
  else if isArabicDigit n then some (!label.any isPersianDigit)
  else if isPersianDigit n then some (!label.any isArabicDigit)
  else none

/-- Checks a character of a label; those in front are in reverse. -/
def checkChar (label before : List Nat) (n : Nat) (after : List Nat) : Except LabelFault Unit :=
  if isPermitted n then .ok ()
  else if n = 0x200c || n = 0x200d then checkJoiner before n after
  else match inContext? label before n after with
    | some true => .ok ()
    | some false => .error .context
    | none => .error .character

/-- Checks the characters of a label behind those in front, which are in reverse. -/
def checkChars (label before : List Nat) : List Nat → Except LabelFault Unit
  | [] => .ok ()
  | n :: after =>
    match checkChar label before n after with
    | .ok () => checkChars label (n :: before) after
    | .error e => .error e

/-! ## Directions -/

/-- Whether a direction is from the right. -/
def isRightward (d : Direction) : Bool :=
  d = .right || d = .arabicLetter

/-- Whether a label may end in a direction, marks aside, if it runs from the right. -/
def mayEnd (d : Direction) : Bool :=
  isRightward d || d = .europeanDigit || d = .arabicDigit

/-- Whether directions may stand in one label. -/
def areConsistent (ds : List Direction) : Bool :=
  if ds.any fun d => isRightward d || d = .arabicDigit then
    ds.head?.any isRightward && !ds.contains .left &&
      !(ds.contains .europeanDigit && ds.contains .arabicDigit) &&
      (ds.reverse.dropWhile (· = .mark)).head?.any mayEnd
  else true

/-- Checks the directions of a label. -/
def checkDirections (label : List Nat) : Except LabelFault Unit :=
  match label.mapM direction? with
  | some ds => if areConsistent ds then .ok () else .error .direction
  | none => .error .direction

/-! ## Labels -/

/-- The most characters that a label may have before it is put in ASCII. -/
def maxLength : Nat := 254

/-- Whether the hyphens of a label stand where they may: at no end, and not together behind two
characters. -/
def hasProperHyphens (label : List Nat) : Bool :=
  label.head? ≠ some 0x2d && label.getLast? ≠ some 0x2d && (label.drop 2).take 2 ≠ [0x2d, 0x2d]

/-- Checks a label. -/
def check (label : List Nat) : Except LabelFault Unit :=
  if label.isEmpty || maxLength < label.length || !Text.isNormal label ||
      !hasProperHyphens label || label.head?.any Text.isMark then .error .malformed
  else match checkChars label [] label with
    | .ok () => checkDirections label
    | .error e => .error e

/-- The mark of Punycode. -/
def mark : List Char := ['x', 'n', '-', '-']

/-- What a label in small ASCII letters stands for. -/
def read (label : List Char) : Except LabelFault (List Nat) :=
  if label.take 4 = mark then
    let code := label.drop 4
    if code.isEmpty || code.getLast? = some '-' then .error .malformed
    else match Punycode.decode? code with
      | none => .error .encoding
      | some text => (check text).map fun _ => text
  else (check (label.map Char.toNat)).map fun _ => label.map Char.toNat

/-- A label in small letters as ASCII text, if it is a proper one. -/
def write? (label : List Char) : Option (List Char) :=
  if label.all fun c => c.toNat < 128 then
    if 63 < label.length then none else (read label).toOption.map fun _ => label
  else
    let code := mark ++ Punycode.encode label
    if 63 < code.length then none
    else (check (label.map Char.toNat)).toOption.map fun _ => code

theorem write?_length_le {s t : List Char} (h : write? s = some t) : t.length ≤ 63 := by
  simp only [write?] at h
  split at h <;> simp only [Option.ite_none_left_eq_some, Nat.not_lt] at h <;>
    obtain ⟨hl, h⟩ := h <;> obtain ⟨_, _, rfl⟩ := Option.map_eq_some_iff.1 h <;> exact hl

end Label

end Bearer.Url
