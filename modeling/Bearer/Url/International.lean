import Bearer.Text.Letters
import Bearer.Url.Label

/-!
# International names

The name of a host with characters outside ASCII is put in small letters and cut into labels at its
dots, of which there are four kinds; each label is written in ASCII. A dot may stand at its end.
What such a name stands for is read the other way round.

* `encode?_length_le`: a name is no longer than 253 characters and a dot at its end.
-/
namespace Bearer.Url.International

/-- The most characters that a name may have, a dot at its end not counted. -/
def maxLength : Nat := 253

/-- Whether a character stands between labels. -/
def isDot (c : Char) : Bool :=
  c = '.' || c = '\u3002' || c = '\uff0e' || c = '\uff61'

/-- The labels of a name. -/
def labels : List Char → List (List Char)
  | [] => [[]]
  | c :: s =>
    if isDot c then [] :: labels s
    else match labels s with
      | [] => [[c]]
      | l :: ls => (c :: l) :: ls

/-- The labels of a name without the empty one behind a dot at its end, and what stands behind
them: that dot, or nothing. -/
def labelsAndDot (s : List Char) : List (List Char) × List Char :=
  let ls := labels s
  if ls.getLast? = some [] then (ls.dropLast, ['.']) else (ls, [])

/-- Labels with dots between. -/
def joined {α : Type} (dot : α) : List (List α) → List α
  | [] => []
  | [l] => l
  | l :: ls => l ++ dot :: joined dot ls

/-- A name as ASCII text, if it is a proper one. -/
def encode? (s : List Char) : Option (List Char) :=
  let s := Text.lowerChars s
  let (ls, dot) := labelsAndDot s
  if maxLength + 1 < s.length then none
  else (ls.mapM Label.write?).bind fun ls =>
    if maxLength < (joined '.' ls).length then none else some (joined '.' ls ++ dot)

theorem encode?_length_le {s t : List Char} (h : encode? s = some t) :
    t.length ≤ maxLength + 1 := by
  simp only [encode?, Option.ite_none_left_eq_some] at h
  obtain ⟨-, h⟩ := h
  obtain ⟨ls, -, h⟩ := Option.bind_eq_some_iff.1 h
  simp only [Option.ite_none_left_eq_some, Option.some.injEq, Nat.not_lt] at h
  obtain ⟨hl, rfl⟩ := h
  have hd : (labelsAndDot (Text.lowerChars s)).2.length ≤ 1 := by
    unfold labelsAndDot
    simp only
    split <;> simp
  simp only [List.length_append]
  omega

/-- What a name in ASCII stands for. -/
def decode (s : List Char) : Except LabelFault (List Char) :=
  if maxLength + 1 < s.length then .error .malformed
  else
    let (ls, dot) := labelsAndDot s
    (ls.mapM fun l => (Label.read l).map fun text => text.map Char.ofNat).map fun ls =>
      joined '.' ls ++ dot

end Bearer.Url.International
