import Bearer.Text.Letters

/-!
# Header fields

A message carries header fields in a row. Their names are in lower case, and what several fields of
one name say is read as one value, with a comma between.

* `value?_setDefault`: a default does not touch a name that has a value.
* `value?_set_self`, `value?_set_of_ne`: setting a name gives it one value and leaves the others.
-/
namespace Bearer.Http

/-- The header fields of a message, their names in lower case. -/
abbrev Headers := List (String × String)

namespace Headers

/-- Header fields with their names put in lower case. -/
def ofFields (fields : List (String × String)) : Headers :=
  fields.map fun f => (Text.lower f.1, f.2)

/-- The values of a name, in their order. -/
def values : Headers → String → List String
  | [], _ => []
  | f :: hs, name => if f.1 = name then f.2 :: values hs name else values hs name

/-- Whether a name has a value. -/
def has (hs : Headers) (name : String) : Bool :=
  !(hs.values name).isEmpty

/-- The value of a name: those of all its fields with a comma between. -/
def value? (hs : Headers) (name : String) : Option String :=
  match hs.values name with
  | [] => none
  | vs => some (", ".intercalate vs)

/-- Gives a name a value unless it has one. -/
def setDefault (hs : Headers) (name value : String) : Headers :=
  if hs.has name then hs else hs ++ [(name, value)]

/-- The fields of all other names. -/
def without : Headers → String → Headers
  | [], _ => []
  | f :: hs, name => if f.1 = name then without hs name else f :: without hs name

/-- Gives a name a value in place of those it has. -/
def set (hs : Headers) (name value : String) : Headers :=
  hs.without name ++ [(name, value)]

theorem values_append (hs gs : Headers) (name : String) :
    values (hs ++ gs) name = hs.values name ++ gs.values name := by
  induction hs with
  | nil => rfl
  | cons f hs ih => by_cases h : f.1 = name <;> simp [values, h, ih]

theorem values_without (hs : Headers) (name other : String) :
    (hs.without name).values other = if other = name then [] else hs.values other := by
  induction hs with
  | nil => simp [values, without]
  | cons f hs ih =>
    by_cases hf : f.1 = name
    · by_cases ho : other = name
      · subst ho; simpa [without, hf] using ih
      · simp [without, hf, ih, ho, values, Ne.symm ho]
    · by_cases ho : f.1 = other
      · simp [without, values, ho, ih, show other ≠ name from ho ▸ hf]
      · simp [without, hf, values, ho, ih]

theorem value?_setDefault (hs : Headers) (name value : String) :
    (hs.setDefault name value).value? name = some ((hs.value? name).getD value) := by
  cases h : hs.values name with
  | nil => simp [setDefault, has, value?, h, values_append, values]
  | cons v vs => simp [setDefault, has, value?, h]

theorem value?_set_self (hs : Headers) (name value : String) :
    (hs.set name value).value? name = some value := by
  simp [set, value?, values_append, values_without, values]

theorem value?_set_of_ne (hs : Headers) {name other : String} (value : String)
    (h : other ≠ name) : (hs.set name value).value? other = hs.value? other := by
  simp [set, value?, values_append, values_without, values, h, Ne.symm h]

/-- Whether every name and value is ASCII. -/
def areAscii (hs : Headers) : Bool :=
  hs.all fun f => Text.isAscii f.1 && Text.isAscii f.2

end Headers

end Bearer.Http
