/-!
# Scopes

A scope is a single permission, named by a text such as `chat:edit`. Two scopes are the same when
their texts are, and they are ordered by code point.

* `mem_distinct`: the distinct scopes of a list are those in it.
-/
namespace Bearer

/-- A permission. -/
structure Scope where
  /-- Its text. -/
  text : String
deriving DecidableEq, Inhabited, Repr

namespace Scope

/-- Whether one scope comes before another. -/
def isBefore (a b : Scope) : Bool :=
  a.text < b.text

/-- The scopes in order, equal ones kept. -/
def sorted (ss : List Scope) : List Scope :=
  ss.mergeSort fun a b => !b.isBefore a

/-- Each scope of a list once, at its first place. -/
def distinct (ss : List Scope) : List Scope :=
  ss.foldl (fun seen s => if s ∈ seen then seen else seen ++ [s]) []

theorem mem_foldl_distinct (s : Scope) (ss seen : List Scope) :
    s ∈ ss.foldl (fun seen s => if s ∈ seen then seen else seen ++ [s]) seen ↔
      s ∈ seen ∨ s ∈ ss := by
  induction ss generalizing seen with
  | nil => simp
  | cons t ss ih =>
    rw [List.foldl_cons, ih]
    by_cases h : t ∈ seen
    · simp only [h, if_true, List.mem_cons]
      constructor
      · rintro (h | h) <;> simp [h]
      · rintro (h | rfl | h) <;> simp [*]
    · simp [h, or_assoc]

theorem mem_distinct {s : Scope} {ss : List Scope} : s ∈ distinct ss ↔ s ∈ ss := by
  rw [distinct, mem_foldl_distinct]; simp

end Scope

end Bearer
