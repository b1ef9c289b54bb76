import Bearer.Json.Display
import Bearer.Json.Equality
import Bearer.Requirement.Display
import Bearer.Requirement.Parser
import Bearer.Scope.Input

/-!
# Building requirements

Requirements are put together from requirements, scopes and texts by functions that take any
number of parts, and by the operators for conjunction, disjunction and negation. Where a part is
expected, a scope or a text stands for the requirement of that scope; any other data is refused,
the first one from the left by its kind.

A conjunction joins the parts of a left side that is a group of all; it never opens the right
side, nor a left side that is no requirement. Disjunction does the same with groups of any. The
operators belong to requirements: between two operands that are none, they are refused, or act on
whole numbers, booleans and objects as such data does.
-/
namespace Bearer

/-- What the builders take as a part. -/
inductive Operand where
  | requirement (r : Requirement)
  | scope (s : Scope)
  | data (v : Json)
deriving Inhabited

/-- An operator between two operands. -/
inductive Connective where
  | and
  | or
deriving DecidableEq, Repr

/-- The sign of an operator. -/
def Connective.sign : Connective → String
  | .and => "&"
  | .or => "|"

/-- Why no requirement was built. -/
inductive BuildFault where
  /-- Data of this kind is no part. -/
  | notPart (kind : String)
  /-- An operand of this kind is no scope. -/
  | notScope (kind : String)
  /-- A negation of so many parts. -/
  | negationOf (count : Nat)
  /-- An operator between operands of these kinds. -/
  | notJoinable (c : Connective) (left right : String)
  /-- A negation of an operand of this kind. -/
  | notInvertible (kind : String)
  /-- A value that makes no scope. -/
  | scope (fault : Scope.Fault)
  /-- There is no scope constant of this name. -/
  | noConstant (name : String)
  /-- A text that is no requirement. -/
  | text (error : Requirement.SyntaxError)
deriving DecidableEq, Repr, Inhabited

/-- The wording of a fault. -/
def BuildFault.message : BuildFault → String
  | .notPart kind => "Cannot build a validator from " ++ kind
  | .notScope kind => "Expected a scope, got " ++ kind
  | .negationOf n =>
    "not_() takes exactly one expression (" ++ toString n ++
      " given); wrap several in all_() or any_()"
  | .notJoinable c left right =>
    "unsupported operand type(s) for " ++ c.sign ++ ": '" ++ left ++ "' and '" ++ right ++ "'"
  | .notInvertible kind => "bad operand type for unary ~: '" ++ kind ++ "'"
  | .scope fault => fault.message
  | .noConstant name => "type object 'Scope' has no attribute '" ++ name ++ "'"
  | .text error => error.message

namespace Operand

/-- The kinds of operand as diagnostics name them. -/
def kind : Operand → String
  | .requirement (.scope _) => "Leaf"
  | .requirement (.all _) => "AllOf"
  | .requirement (.any _) => "AnyOf"
  | .requirement (.not _) => "Not"
  | .scope _ => "Scope"
  | .data v => v.kind

/-- The requirement that an operand stands for as a part. -/
def toPart : Operand → Except BuildFault Requirement
  | .requirement r => .ok r
  | .scope s => .ok (.scope s)
  | .data (.str s) => .ok (.scope ⟨s⟩)
  | .data v => .error (.notPart v.kind)

/-- The requirements that several operands stand for. -/
def toParts : List Operand → Except BuildFault (List Requirement)
  | [] => .ok []
  | o :: os =>
    match o.toPart with
    | .error e => .error e
    | .ok r =>
      match toParts os with
      | .error e => .error e
      | .ok rs => .ok (r :: rs)

/-- The requirement of a single scope. -/
def single : Operand → Except BuildFault Requirement
  | .scope s => .ok (.scope s)
  | .data (.str s) => .ok (.scope ⟨s⟩)
  | o => .error (.notScope o.kind)

/-- All of the operands. -/
def allOf (os : List Operand) : Except BuildFault Requirement :=
  (toParts os).map .all

/-- Any of the operands. -/
def anyOf (os : List Operand) : Except BuildFault Requirement :=
  (toParts os).map .any

/-- The opposite of the only operand. -/
def notOf : List Operand → Except BuildFault Requirement
  | [o] => o.toPart.map .not
  | os => .error (.negationOf os.length)

/-- The only operand by itself, or all of several. -/
def conjunctionOf : List Operand → Except BuildFault Requirement
  | [o] => o.toPart
  | os => allOf os

/-- The group that a connective makes. -/
def group : Connective → List Requirement → Requirement
  | .and => .all
  | .or => .any

/-- The parts of a requirement that a connective opens on its left side. -/
def opened : Connective → Requirement → List Requirement
  | .and, .all ps => ps
  | .or, .any ps => ps
  | _, r => [r]

/-- Conjunction or disjunction of the bits of two whole numbers. -/
def joinBits (c : Connective) (m n : Int) : Int :=
  let width := max m.natAbs.log2 n.natAbs.log2 + 2
  let a := BitVec.ofInt width m
  let b := BitVec.ofInt width n
  (match c with
    | .and => a &&& b
    | .or => a ||| b).toInt

/-- The operators on data: bits of whole numbers, booleans, and the union of two objects. -/
def joinData? (c : Connective) : Json → Json → Option Json
  | .bool a, .bool b =>
    some (.bool (match c with
      | .and => a && b
      | .or => a || b))
  | .obj xs, .obj ys =>
    match c with
    | .and => none
    | .or => some (.obj (ys.foldl (fun fs f => Json.insert f.1 f.2 fs) xs))
  | v, w =>
    match v.whole?, w.whole? with
    | some m, some n => some (.int (joinBits c m n))
    | _, _ => none

/-- The left operand joined with the right one. -/
def join (c : Connective) (left right : Operand) : Except BuildFault Operand :=
  match left, right with
  | .requirement l, r => r.toPart.map fun r => .requirement (group c (opened c l ++ [r]))
  | l, .requirement r => l.toPart.map fun l => .requirement (group c [l, r])
  | .data v, .data w =>
    match joinData? c v w with
    | some u => .ok (.data u)
    | none => .error (.notJoinable c v.kind w.kind)
  | l, r => .error (.notJoinable c l.kind r.kind)

/-- The opposite of an operand; of a whole number, the complement of its bits. -/
def invert : Operand → Except BuildFault Operand
  | .requirement r => .ok (.requirement (.not r))
  | .data v =>
    match v.whole? with
    | some n => .ok (.data (.int (-n - 1)))
    | none => .error (.notInvertible v.kind)
  | o => .error (.notInvertible o.kind)

/-- An operand in a diagnostic, a requirement by its text. -/
def describe : Operand → String
  | .requirement r => String.ofList r.text
  | .scope s => s.describe
  | .data v => v.describe

/-- Whether two operands are equal: requirements as trees, scopes by their texts, data as
values. -/
def isSame : Operand → Operand → Bool
  | .requirement r, .requirement q => r == q
  | .scope s, .scope t => s == t
  | .data v, .data w => v.isSame w
  | _, _ => false

/-- The fault of looking the operand up, if it is a container. -/
def keyFault? : Operand → Option Scope.Fault
  | .data v => if v.isKeyable then none else some (.notKeyable v.kind)
  | _ => none

end Operand

end Bearer
