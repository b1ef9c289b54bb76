import Bearer.Json.Value
import Bearer.Number.Binary

/-!
# Documents compared as values

Two documents are the same value if their numbers are equal as numbers, a boolean counting as one
or zero; an object does not depend on the order of its keys. A NaN is the same as nothing.
-/
namespace Bearer.Json

/-- Whether a whole number and a float are the same number. -/
def sameNumber (n : Int) (x : Float) : Bool :=
  match Number.Binary.ofFloat? x with
  | some b => b.isWhole && b.truncate == n
  | none => false

/-- The whole number that a boolean or a whole number is. -/
def whole? : Json → Option Int
  | .bool b => some (if b then 1 else 0)
  | .int n => some n
  | _ => none

mutual

/-- Whether two documents are the same value. -/
def isSame : Json → Json → Bool
  | .null, .null => true
  | .str s, .str t => s == t
  | .arr xs, .arr ys => areSame xs ys
  | .obj xs, .obj ys => xs.length == ys.length && fieldsSame xs ys
  | .float x, .float y => x == y
  | .float x, w => (whole? w).any fun n => sameNumber n x
  | v, .float y => (whole? v).any fun n => sameNumber n y
  | v, w =>
    match whole? v, whole? w with
    | some m, some n => m == n
    | _, _ => false

/-- Whether two arrays are the same item by item. -/
def areSame : List Json → List Json → Bool
  | [], [] => true
  | x :: xs, y :: ys => isSame x y && areSame xs ys
  | _, _ => false

/-- Whether every field of the first object stands in the second with the same value. -/
def fieldsSame : List (String × Json) → List (String × Json) → Bool
  | [], _ => true
  | (k, x) :: xs, ys =>
    (match lookup? k ys with
      | some y => isSame x y
      | none => false) && fieldsSame xs ys

end

/-- Whether a document can be a key: it is no container. -/
def isKeyable : Json → Bool
  | .arr _ => false
  | .obj _ => false
  | _ => true

end Bearer.Json
