/-!
# Problems with data

Data that should fit a description may be wrong in several places at once, and every place is
reported: where it is, and what is wrong there.
-/
namespace Bearer.Payload

/-- A step into a document: to a key, or to an index of an array. -/
inductive Step where
  | key (name : String)
  | index (i : Nat)
deriving DecidableEq, Repr

/-- What can be wrong with a value. -/
inductive Defect where
  | notDocument
  | notObject
  | missing
  | notText
  | notList
  | notWhole
  | wholeUnreadable
  | wholeTooLong
  | wholeFromFraction
  | notFinite
  | below
  | notBelow
  | notSpan
  | spanUnreadable
  | notFlag
  | flagUnreadable
  | notNumber
  | numberUnreadable
  | notAbove
  | notInstance
  /-- A rule of the field itself, with its wording. -/
  | refused (reason : String)
deriving DecidableEq, Repr

/-- The code under which a defect is reported. -/
def Defect.code : Defect → String
  | .notDocument => "json_invalid"
  | .notObject => "model_type"
  | .missing => "missing"
  | .notText => "string_type"
  | .notList => "list_type"
  | .notWhole => "int_type"
  | .wholeUnreadable => "int_parsing"
  | .wholeTooLong => "int_parsing_size"
  | .wholeFromFraction => "int_from_float"
  | .notFinite => "finite_number"
  | .below => "greater_than_equal"
  | .notBelow => "less_than"
  | .notSpan => "time_delta_type"
  | .spanUnreadable => "time_delta_parsing"
  | .notFlag => "bool_type"
  | .flagUnreadable => "bool_parsing"
  | .notNumber => "float_type"
  | .numberUnreadable => "float_parsing"
  | .notAbove => "greater_than"
  | .notInstance => "is_instance_of"
  | .refused _ => "value_error"

/-- A defect and where it is, from the outside in. -/
structure Problem where
  /-- The way to the value. -/
  path : List Step
  /-- What is wrong with it. -/
  defect : Defect
deriving DecidableEq, Repr

/-- A problem seen from one step further out. -/
def Problem.under (s : Step) (p : Problem) : Problem :=
  { p with path := s :: p.path }

/-- The first line of a report of problems with data that should fit the description `name`. -/
def summary (name : String) (ps : List Problem) : String :=
  toString ps.length ++ " validation error" ++ (if ps.length = 1 then "" else "s") ++ " for " ++ name

end Bearer.Payload
