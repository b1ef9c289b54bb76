/-!
# JSON documents

A document is null, a boolean, a number, a string, an array or an object. Whole numbers are kept
apart from those written with a point or an exponent, and an object keeps the order of its keys;
`insert` gives a key that is there already its new value at the old place, so a key stands in an
object once.

* `lookup?_insert_self`, `lookup?_insert_of_ne`: what is inserted is found, and nothing else moves.
-/
namespace Bearer

/-- A JSON document. -/
inductive Json where
  | null
  | bool (b : Bool)
  | int (n : Int)
  | float (x : Float)
  | str (s : String)
  | arr (items : List Json)
  | obj (fields : List (String × Json))
deriving Inhabited

namespace Json

/-- The value of a key among the fields of an object. -/
def lookup? (key : String) : List (String × Json) → Option Json
  | [] => none
  | (k, v) :: fields => if k = key then some v else lookup? key fields

/-- The fields of an object with a key set to a value. -/
def insert (key : String) (value : Json) : List (String × Json) → List (String × Json)
  | [] => [(key, value)]
  | (k, v) :: fields =>
    if k = key then (k, value) :: fields else (k, v) :: insert key value fields

theorem lookup?_insert_self (key : String) (value : Json) (fields : List (String × Json)) :
    lookup? key (insert key value fields) = some value := by
  induction fields with
  | nil => simp [insert, lookup?]
  | cons f fields ih =>
    obtain ⟨k, v⟩ := f
    by_cases h : k = key <;> simp [insert, lookup?, h, ih]

theorem lookup?_insert_of_ne {key other : String} (h : key ≠ other) (value : Json)
    (fields : List (String × Json)) :
    lookup? other (insert key value fields) = lookup? other fields := by
  induction fields with
  | nil => simp [insert, lookup?, h]
  | cons f fields ih =>
    obtain ⟨k, v⟩ := f
    by_cases hk : k = key
    · subst hk; simp [insert, lookup?, h]
    · by_cases ho : k = other
      · subst ho; simp [insert, lookup?, hk]
      · simp [insert, lookup?, hk, ho, ih]

/-- The value of a key of an object; absent also if the document is no object. -/
def get? (key : String) : Json → Option Json
  | .obj fields => lookup? key fields
  | _ => none

/-- The kinds of document as diagnostics name them. -/
def kind : Json → String
  | .null => "NoneType"
  | .bool _ => "bool"
  | .int _ => "int"
  | .float _ => "float"
  | .str _ => "str"
  | .arr _ => "list"
  | .obj _ => "dict"

/-- The text of a string. -/
def text? : Json → Option String
  | .str s => some s
  | _ => none

end Json

end Bearer
