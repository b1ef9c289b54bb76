import Bearer.Text.Composition
import Bearer.Text.Ordering

/-!
# Composed text

Of all ways to write the same text one is normal (normalization form C): every character is taken
apart, the marks are put in canonical order, and then each is joined with the character in front of
it where the pair exists ready-made and no mark of the same or a higher class stands between.
-/
namespace Bearer.Text

/-- The most steps in which a ready-made character is taken apart. -/
def deepest : Nat := 3

/-- A character taken apart in at most so many steps. -/
def parts : Nat → Nat → List Nat
  | 0, n => [n]
  | steps + 1, n =>
    match split? n with
    | some (a, b) => parts steps a ++ [b]
    | none => [n]

/-- A text with every character taken apart. -/
def decomposed (s : List Nat) : List Nat :=
  s.flatMap (parts deepest)

/-- A text part way through joining; the lists are in reverse. -/
structure Joining where
  /-- What stands in front of the last character that starts anew. -/
  done : List Nat := []
  /-- That character, if there is one. -/
  start : Option Nat := none
  /-- The marks behind it that were not joined with it. -/
  marks : List Nat := []

/-- Whether a code point may be joined with the last character that starts anew. -/
def Joining.reaches (j : Joining) (n : Nat) : Bool :=
  match j.marks with
  | [] => true
  | m :: _ => combiningClass m < combiningClass n

/-- Goes on with a code point. -/
def Joining.add (j : Joining) (n : Nat) : Joining :=
  match (if j.reaches n then j.start.bind fun a => join? a n else none) with
  | some c => { j with start := some c }
  | none =>
    if combiningClass n = 0 then { done := j.marks ++ j.start.toList ++ j.done, start := some n }
    else { j with marks := n :: j.marks }

/-- All that was read. -/
def Joining.text (j : Joining) : List Nat :=
  (j.marks ++ j.start.toList ++ j.done).reverse

/-- A text with all pairs joined that exist ready-made. -/
def composed (s : List Nat) : List Nat :=
  (s.foldl Joining.add {}).text

/-- Whether a text is in normal form. -/
def isNormal (s : List Nat) : Bool :=
  !s.any neverComposed.contains && composed (ordered (decomposed s)) == s

end Bearer.Text
