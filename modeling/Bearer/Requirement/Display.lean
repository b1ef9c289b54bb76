import Bearer.Requirement.Basic

/-!
# Requirements in words

A group is shown as its parts between parentheses with `and` or `or` between them, or as `all()`
or `any()` if it has none, and a negation as `not(…)`. Texts are lists of characters here;
`display` gives the string.
-/
namespace Bearer.Requirement

/-- The texts of several parts with a separator between them. -/
def separated (separator : List Char) : List (List Char) → List Char
  | [] => []
  | [p] => p
  | p :: ps => p ++ separator ++ separated separator ps

/-- A group: its name if it has no parts, else the parts between parentheses. -/
def groupText (name separator : String) (parts : List (List Char)) : List Char :=
  if parts.isEmpty then name.toList ++ ['(', ')']
  else '(' :: separated separator.toList parts ++ [')']

mutual

/-- The text of a requirement. -/
def text : Requirement → List Char
  | .scope s => s.text.toList
  | .all ps => groupText "all" " and " (texts ps)
  | .any ps => groupText "any" " or " (texts ps)
  | .not p => "not(".toList ++ text p ++ [')']

/-- The text of each requirement of a list. -/
def texts : List Requirement → List (List Char)
  | [] => []
  | p :: ps => text p :: texts ps

end

/-- A requirement in words. -/
def display (r : Requirement) : String :=
  String.ofList r.text

end Bearer.Requirement
