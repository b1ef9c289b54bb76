import Bearer.Json.Value
import Bearer.Number.Shortest
import Bearer.Text.Quoted

/-!
# Documents in diagnostics

A document shown in a message: texts are quoted, the constants are spelled with a capital, and
containers keep their brackets.
-/
namespace Bearer.Json

mutual

/-- A document as a diagnostic shows it. -/
def describe : Json → String
  | .null => "None"
  | .bool true => "True"
  | .bool false => "False"
  | .int n => toString n
  | .float x => Number.floatText x
  | .str s => Text.quoted s
  | .arr items => "[" ++ ", ".intercalate (describeItems items) ++ "]"
  | .obj fields => "\x7b" ++ ", ".intercalate (describeFields fields) ++ "\x7d"

/-- The items of an array. -/
def describeItems : List Json → List String
  | [] => []
  | v :: items => describe v :: describeItems items

/-- The fields of an object. -/
def describeFields : List (String × Json) → List String
  | [] => []
  | (k, v) :: fields => (Text.quoted k ++ ": " ++ describe v) :: describeFields fields

end

end Bearer.Json
