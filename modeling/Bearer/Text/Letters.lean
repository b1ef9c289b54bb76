import Bearer.Text.Case

/-!
# Letter case

Text in small letters and text in capitals, letter by letter, for all scripts that tell the two
apart. Two letters do not become one: the capital i with a dot becomes an i and a dot above, and the
letters that `several` lists become several capitals. A capital sigma becomes a final one if a cased
letter stands in front of it and none behind it, the characters that are passed over left out of
account. Other characters are left as they are.

* `lowerChar_of_isAscii`, `upperChar_of_isAscii`: what case is in ASCII.
* `lowerChars_of_isAscii`: text in ASCII is put in small letters one by one.
-/
namespace Bearer.Text

/-- A letter in small letters, wherever it stands. -/
def lowerChar (c : Char) : List Char :=
  if c.toNat < 128 then [c.toLower]
  else if c = '\u0130' then ['i', '\u0307']
  else [((partner? capitals c.toNat).map Char.ofNat).getD c]

/-- A letter as capitals. -/
def upperChar (c : Char) : List Char :=
  if c.toNat < 128 then [c.toUpper]
  else match several.find? fun s => s.1 = c.toNat with
    | some s => s.2.map Char.ofNat
    | none => [((partner? smalls c.toNat).map Char.ofNat).getD c]

theorem lowerChar_of_isAscii {c : Char} (h : c.toNat < 128) : lowerChar c = [c.toLower] := by
  simp [lowerChar, h]

theorem upperChar_of_isAscii {c : Char} (h : c.toNat < 128) : upperChar c = [c.toUpper] := by
  simp [upperChar, h]

/-- Whether the first character that is not passed over is a cased letter. -/
def meetsCased (s : List Char) : Bool :=
  match s.dropWhile fun c => isPassedOver c.toNat with
  | c :: _ => isCased c.toNat
  | [] => false

/-- The small sigma that stands between two texts, the one in front in reverse. -/
def sigmaBetween (before after : List Char) : Char :=
  if meetsCased before && !meetsCased after then '\u03c2' else '\u03c3'

/-- A text in small letters behind another one, which is held in reverse. -/
def lowerBehind (before : List Char) : List Char → List Char
  | [] => []
  | c :: s =>
    (if c = '\u03a3' then [sigmaBetween before s] else lowerChar c) ++ lowerBehind (c :: before) s

/-- The characters of a text in small letters. -/
def lowerChars (s : List Char) : List Char :=
  lowerBehind [] s

theorem lowerBehind_of_isAscii {s : List Char} (h : ∀ c ∈ s, c.toNat < 128) (before : List Char) :
    lowerBehind before s = s.map Char.toLower := by
  induction s generalizing before with
  | nil => rfl
  | cons c s ih =>
    have hc := h c List.mem_cons_self
    have hs : c ≠ '\u03a3' := fun e => by subst e; revert hc; decide
    simp [lowerBehind, hs, lowerChar_of_isAscii hc, ih fun d hd => h d (List.mem_cons_of_mem _ hd)]

theorem lowerChars_of_isAscii {s : List Char} (h : ∀ c ∈ s, c.toNat < 128) :
    lowerChars s = s.map Char.toLower :=
  lowerBehind_of_isAscii h []

/-- The text in small letters. -/
def lower (s : String) : String :=
  String.ofList (lowerChars s.toList)

/-- The text in capitals. -/
def upper (s : String) : String :=
  String.ofList (s.toList.flatMap upperChar)

/-- Whether every character is ASCII. -/
def isAscii (s : String) : Bool :=
  s.toList.all fun c => c.toNat < 128

end Bearer.Text
