import Bearer.Requirement.Basic
import Mathlib.Data.List.Basic

/-!
# The nodes of requirements

A requirement is a tree whose groups have any number of parts. The functions on it come in pairs,
one for a requirement and one for the parts of a group; here the second of each pair is an
operation on lists, and `onNodes` is the induction over the tree in which the parts of a group are
the members of its list. `nodes` are the nodes that no negation is above, `negations` those of them
that are negations, and a requirement without any is positive.

* `isMet_all`, `isMet_any`, `isMet_not`: when a node is met, by its parts.
* `mem_leaves_all`, `mem_nodes_all`, `mem_negations_all` and the same for `any`: what a group holds
  is
  what its parts hold, the group itself apart.
* `negations_eq_nil_iff`: positive requirements are those without negations.
-/
namespace Bearer.Requirement

/-- Induction over a requirement, the parts of a group taken one by one. -/
@[elab_as_elim, induction_eliminator]
theorem onNodes {motive : Requirement → Prop} (scope : ∀ s, motive (.scope s))
    (all : ∀ ps, (∀ p ∈ ps, motive p) → motive (.all ps))
    (any : ∀ ps, (∀ p ∈ ps, motive p) → motive (.any ps))
    (not : ∀ p, motive p → motive (.not p)) (p : Requirement) : motive p := by
  refine Requirement.rec (motive_1 := motive) (motive_2 := fun ps => ∀ p ∈ ps, motive p)
    scope all any not ?_ ?_ p
  · intro p hp
    exact absurd hp List.not_mem_nil
  · intro p ps hp hps q hq
    rcases List.mem_cons.1 hq with rfl | hq
    · exact hp
    · exact hps q hq

variable {held : List Scope}

/-! ## Groups as lists -/

theorem allMet_eq_all (held : List Scope) (ps : List Requirement) :
    allMet held ps = ps.all (isMet held) := by
  induction ps with
  | nil => rfl
  | cons p ps ih => rw [allMet, ih, List.all_cons]

theorem anyMet_eq_any (held : List Scope) (ps : List Requirement) :
    anyMet held ps = ps.any (isMet held) := by
  induction ps with
  | nil => rfl
  | cons p ps ih => rw [anyMet, ih, List.any_cons]

theorem gaps_eq_filterMap (held : List Scope) (ps : List Requirement) :
    gaps held ps = ps.filterMap (missing held) := by
  induction ps with
  | nil => rfl
  | cons p ps ih =>
    rw [gaps, ih, List.filterMap_cons]
    cases missing held p <;> rfl

theorem isMet_all {ps : List Requirement} :
    isMet held (.all ps) = true ↔ ∀ p ∈ ps, isMet held p = true := by
  rw [isMet, allMet_eq_all, List.all_eq_true]

theorem isMet_any {ps : List Requirement} :
    isMet held (.any ps) = true ↔ ∃ p ∈ ps, isMet held p = true := by
  rw [isMet, anyMet_eq_any, List.any_eq_true]

theorem isMet_not {p : Requirement} : isMet held (.not p) = true ↔ isMet held p = false := by
  rw [isMet, Bool.not_eq_true']

/-! ## Leaves -/

mutual

/-- The scopes that a requirement names, from left to right. -/
def leaves : Requirement → List Scope
  | .scope s => [s]
  | .all ps => leavesIn ps
  | .any ps => leavesIn ps
  | .not p => leaves p

/-- The scopes that several requirements name. -/
def leavesIn : List Requirement → List Scope
  | [] => []
  | p :: ps => leaves p ++ leavesIn ps

end

theorem leavesIn_eq_flatMap (ps : List Requirement) : leavesIn ps = ps.flatMap leaves := by
  induction ps with
  | nil => rfl
  | cons p ps ih => rw [leavesIn, ih, List.flatMap_cons]

theorem mem_leaves_all {s : Scope} {ps : List Requirement} :
    s ∈ leaves (.all ps) ↔ ∃ p ∈ ps, s ∈ leaves p := by
  rw [leaves, leavesIn_eq_flatMap, List.mem_flatMap]

theorem mem_leaves_any {s : Scope} {ps : List Requirement} :
    s ∈ leaves (.any ps) ↔ ∃ p ∈ ps, s ∈ leaves p := by
  rw [leaves, leavesIn_eq_flatMap, List.mem_flatMap]

/-! ## Nodes -/

mutual

/-- The nodes of a requirement that no negation is above, each in front of its parts. -/
def nodes : Requirement → List Requirement
  | .scope s => [.scope s]
  | .all ps => .all ps :: nodesIn ps
  | .any ps => .any ps :: nodesIn ps
  | .not p => [.not p]

/-- The nodes of several requirements. -/
def nodesIn : List Requirement → List Requirement
  | [] => []
  | p :: ps => nodes p ++ nodesIn ps

end

theorem nodesIn_eq_flatMap (ps : List Requirement) : nodesIn ps = ps.flatMap nodes := by
  induction ps with
  | nil => rfl
  | cons p ps ih => rw [nodesIn, ih, List.flatMap_cons]

theorem mem_nodes_all {n : Requirement} {ps : List Requirement} :
    n ∈ nodes (.all ps) ↔ n = .all ps ∨ ∃ p ∈ ps, n ∈ nodes p := by
  rw [nodes, nodesIn_eq_flatMap, List.mem_cons, List.mem_flatMap]

theorem mem_nodes_any {n : Requirement} {ps : List Requirement} :
    n ∈ nodes (.any ps) ↔ n = .any ps ∨ ∃ p ∈ ps, n ∈ nodes p := by
  rw [nodes, nodesIn_eq_flatMap, List.mem_cons, List.mem_flatMap]

/-! ## Negations -/

mutual

/-- The outermost negations of a requirement, from left to right. -/
def negations : Requirement → List Requirement
  | .scope _ => []
  | .all ps => negationsIn ps
  | .any ps => negationsIn ps
  | .not p => [.not p]

/-- The outermost negations of several requirements. -/
def negationsIn : List Requirement → List Requirement
  | [] => []
  | p :: ps => negations p ++ negationsIn ps

end

theorem negationsIn_eq_flatMap (ps : List Requirement) :
    negationsIn ps = ps.flatMap negations := by
  induction ps with
  | nil => rfl
  | cons p ps ih => rw [negationsIn, ih, List.flatMap_cons]

theorem mem_negations_all {n : Requirement} {ps : List Requirement} :
    n ∈ negations (.all ps) ↔ ∃ p ∈ ps, n ∈ negations p := by
  rw [negations, negationsIn_eq_flatMap, List.mem_flatMap]

theorem mem_negations_any {n : Requirement} {ps : List Requirement} :
    n ∈ negations (.any ps) ↔ ∃ p ∈ ps, n ∈ negations p := by
  rw [negations, negationsIn_eq_flatMap, List.mem_flatMap]

/-- The outermost negations are nodes that no negation is above. -/
theorem mem_nodes_of_mem_negations {n p : Requirement} (h : n ∈ negations p) :
    (∃ q, n = .not q) ∧ n ∈ nodes p := by
  induction p with
  | scope s => exact absurd h List.not_mem_nil
  | all ps ih =>
    obtain ⟨p, hp, hn⟩ := mem_negations_all.1 h
    obtain ⟨hnot, hnode⟩ := ih p hp hn
    exact ⟨hnot, mem_nodes_all.2 (.inr ⟨p, hp, hnode⟩)⟩
  | any ps ih =>
    obtain ⟨p, hp, hn⟩ := mem_negations_any.1 h
    obtain ⟨hnot, hnode⟩ := ih p hp hn
    exact ⟨hnot, mem_nodes_any.2 (.inr ⟨p, hp, hnode⟩)⟩
  | not p =>
    rw [negations, List.mem_singleton] at h
    exact ⟨⟨p, h⟩, List.mem_singleton.2 h⟩

mutual

/-- Whether a requirement holds no negation. -/
def isPositive : Requirement → Bool
  | .scope _ => true
  | .all ps => arePositive ps
  | .any ps => arePositive ps
  | .not _ => false

/-- Whether several requirements hold no negation. -/
def arePositive : List Requirement → Bool
  | [] => true
  | p :: ps => isPositive p && arePositive ps

end

theorem arePositive_iff {ps : List Requirement} :
    arePositive ps = true ↔ ∀ p ∈ ps, isPositive p = true := by
  induction ps with
  | nil => simp [arePositive]
  | cons p ps ih => simp [arePositive, ih]

theorem negations_eq_nil_iff (p : Requirement) : negations p = [] ↔ isPositive p = true := by
  induction p with
  | scope s => simp [negations, isPositive]
  | all ps ih | any ps ih =>
    rw [negations, negationsIn_eq_flatMap, isPositive, arePositive_iff, List.flatMap_eq_nil_iff]
    exact forall₂_congr ih
  | not p => simp [negations, isPositive]

end Bearer.Requirement
