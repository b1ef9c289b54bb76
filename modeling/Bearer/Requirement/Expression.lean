import Bearer.Requirement.Builder

/-!
# Expressions

An expression says how a requirement is put together: from scopes, texts and data by the builders
and the operators. Evaluating it builds its parts from left to right; the first part that cannot be
built is the fault of the whole.

* `evalAll_eq_ok_iff`: several expressions are evaluated one by one.
-/
namespace Bearer

/-- A way to put a requirement together. -/
inductive Expression where
  /-- A scope, a requirement or data as it is. -/
  | operand (o : Operand)
  /-- The scope that data is. -/
  | ofData (v : Json)
  /-- A scope by the name of its constant. -/
  | constant (name : String)
  /-- What a text stands for. -/
  | text (s : String)
  /-- The requirement of a single scope. -/
  | scope (e : Expression)
  /-- All parts. -/
  | all (es : List Expression)
  /-- Any part. -/
  | any (es : List Expression)
  /-- The opposite of the only part. -/
  | not (es : List Expression)
  /-- The only part, or all parts. -/
  | conjunction (es : List Expression)
  /-- Two parts with an operator between them. -/
  | join (c : Connective) (left right : Expression)
  /-- The operator for the opposite. -/
  | invert (e : Expression)
deriving Inhabited

namespace Expression

mutual

/-- What an expression builds. -/
def eval : Expression → Except BuildFault Operand
  | .operand o => .ok o
  | .ofData v => (Scope.ofJson v).mapError .scope |>.map .scope
  | .constant name =>
    match Scope.ofName? name with
    | some s => .ok (.scope s)
    | none => .error (.noConstant name)
  | .text s => (Requirement.parse s).mapError .text |>.map .requirement
  | .scope e => do return .requirement (← Operand.single (← eval e))
  | .all es => do return .requirement (← Operand.allOf (← evalAll es))
  | .any es => do return .requirement (← Operand.anyOf (← evalAll es))
  | .not es => do return .requirement (← Operand.notOf (← evalAll es))
  | .conjunction es => do return .requirement (← Operand.conjunctionOf (← evalAll es))
  | .join c a b => do
    let a ← eval a
    Operand.join c a (← eval b)
  | .invert e => do Operand.invert (← eval e)

/-- What several expressions build. -/
def evalAll : List Expression → Except BuildFault (List Operand)
  | [] => .ok []
  | e :: es => do
    let o ← eval e
    return o :: (← evalAll es)

end

theorem evalAll_eq_ok_iff {e : Expression} {es : List Expression} {os : List Operand} :
    evalAll (e :: es) = .ok os ↔ ∃ p ps, eval e = .ok p ∧ evalAll es = .ok ps ∧ os = p :: ps := by
  rw [evalAll]
  cases eval e with
  | error f => simp [bind, Except.bind]
  | ok p =>
    cases evalAll es with
    | error f => simp [bind, Except.bind]
    | ok ps => simp [bind, Except.bind, pure, Except.pure, eq_comm]

end Expression

end Bearer
