import Bearer.Requirement.Basic
import Bearer.Requirement.Token

/-!
# Reading requirements

A text is a list of parts separated by commas, a last comma allowed; a part is a scope, or a group
`all(…)`, `any(…)` or `not(…)` of such a list. The whole list stands for its only part or, if it
has none or several, for all of them together. A word is a group only before a parenthesis, so
`all` alone is a scope.

`part` and `next` read the lexemes one by one. The groups not yet closed are kept on a stack with
what stood before them, and the name of a group and the number of its parts are looked at when it
closes.
-/
namespace Bearer.Requirement

/-- A group that is not closed yet. -/
structure Group where
  /-- Its name. -/
  name : List Char
  /-- The position of the name. -/
  position : Nat
  /-- The parts that stand before it in the list around it, in reverse. -/
  before : List Requirement

/-- The requirement that a group with the given parts is. -/
def Group.close (g : Group) (parts : List Requirement) : Except SyntaxFault Requirement :=
  if g.name = "not".toList then
    match parts with
    | [p] => .ok (.not p)
    | _ => .error (.negationOf parts.length g.position)
  else if g.name = "all".toList then .ok (.all parts)
  else if g.name = "any".toList then .ok (.any parts)
  else .error (.unknownGroup g.name g.position)

/-- A list of parts as one requirement: its only part, or all of them. -/
def conjunction : List Requirement → Requirement
  | [p] => p
  | ps => .all ps

mutual

/-- Reads on where a part or the end of the list must stand, `parts` being those read in
reverse. -/
def part (stack : List Group) (parts : List Requirement) :
    List Placed → Except SyntaxFault Requirement
  | [] => if stack.isEmpty then .ok (conjunction parts.reverse) else .error .endOfText
  | ⟨.word w, p⟩ :: ⟨.lparen, _⟩ :: ts => part (⟨w, p, parts⟩ :: stack) [] ts
  | ⟨.word w, _⟩ :: ts => next stack (.scope ⟨String.ofList w⟩ :: parts) ts
  | ⟨.rparen, p⟩ :: ts =>
    match stack with
    | [] => .error (.partExpected p .rparen)
    | g :: stack =>
      match g.close parts.reverse with
      | .ok r => next stack (r :: g.before) ts
      | .error e => .error e
  | ⟨t, p⟩ :: _ => .error (.partExpected p t)

/-- Reads on behind a part. -/
def next (stack : List Group) (parts : List Requirement) :
    List Placed → Except SyntaxFault Requirement
  | [] => if stack.isEmpty then .ok (conjunction parts.reverse) else .error .endOfText
  | ⟨.comma, _⟩ :: ts => part stack parts ts
  | ⟨.rparen, p⟩ :: ts =>
    match stack with
    | [] => .error (.commaExpected p .rparen)
    | g :: stack =>
      match g.close parts.reverse with
      | .ok r => next stack (r :: g.before) ts
      | .error e => .error e
  | ⟨t, p⟩ :: _ => .error (.commaExpected p t)

end

/-- A text that is no requirement, and why. -/
structure SyntaxError where
  /-- The text. -/
  text : String
  /-- What is wrong with it. -/
  fault : SyntaxFault
deriving DecidableEq, Repr

/-- The wording of the error. -/
def SyntaxError.message (e : SyntaxError) : String :=
  e.fault.message e.text

/-- The requirement that a text stands for. -/
def parse (text : String) : Except SyntaxError Requirement :=
  match (scan 0 text.toList).bind (part [] []) with
  | .ok r => .ok r
  | .error e => .error ⟨text, e⟩

end Bearer.Requirement
