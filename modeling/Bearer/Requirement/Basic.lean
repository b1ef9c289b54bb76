import Bearer.Scope.Basic

/-!
# Requirements on scopes

An application says which scopes a token must hold by a requirement: a scope, all of several
requirements, any of several, or the opposite of one. Against the scopes that are held a
requirement is met or not, and of one that is not met `missing` keeps the part still to be met:
parts that are met are pruned, a group with one part left is that part, and a negation that fails
stands as it is.

* `missing_eq_none_iff`: nothing is missing exactly when the requirement is met.
-/
namespace Bearer

/-- A condition on the scopes that are held. -/
inductive Requirement where
  /-- The scope is held. -/
  | scope (s : Scope)
  /-- Every part is met; so is a group without parts. -/
  | all (parts : List Requirement)
  /-- Some part is met; a group without parts never is. -/
  | any (parts : List Requirement)
  /-- The part is not met. -/
  | not (part : Requirement)
deriving Inhabited

namespace Requirement

mutual

/-- Whether two requirements are the same tree. -/
def isSame : Requirement → Requirement → Bool
  | .scope s, .scope t => s == t
  | .all ps, .all qs => areSame ps qs
  | .any ps, .any qs => areSame ps qs
  | .not p, .not q => isSame p q
  | _, _ => false

/-- Whether two lists of requirements are the same trees. -/
def areSame : List Requirement → List Requirement → Bool
  | [], [] => true
  | p :: ps, q :: qs => isSame p q && areSame ps qs
  | _, _ => false

end

mutual

theorem isSame_iff : ∀ p q : Requirement, isSame p q = true ↔ p = q
  | .scope s, .scope t => by simp [isSame]
  | .all ps, .all qs => by simp [isSame, areSame_iff ps qs]
  | .any ps, .any qs => by simp [isSame, areSame_iff ps qs]
  | .not p, .not q => by simp [isSame, isSame_iff p q]
  | .scope _, .all _ | .scope _, .any _ | .scope _, .not _ => by simp [isSame]
  | .all _, .scope _ | .all _, .any _ | .all _, .not _ => by simp [isSame]
  | .any _, .scope _ | .any _, .all _ | .any _, .not _ => by simp [isSame]
  | .not _, .scope _ | .not _, .all _ | .not _, .any _ => by simp [isSame]

theorem areSame_iff : ∀ ps qs : List Requirement, areSame ps qs = true ↔ ps = qs
  | [], [] => by simp [areSame]
  | p :: ps, q :: qs => by simp [areSame, isSame_iff p q, areSame_iff ps qs]
  | [], _ :: _ | _ :: _, [] => by simp [areSame]

end

instance : DecidableEq Requirement := fun p q =>
  decidable_of_iff (isSame p q = true) (isSame_iff p q)

mutual

/-- Whether the scopes held meet the requirement. -/
def isMet (held : List Scope) : Requirement → Bool
  | .scope s => held.contains s
  | .all ps => allMet held ps
  | .any ps => anyMet held ps
  | .not p => !isMet held p

/-- Whether every requirement of a list is met. -/
def allMet (held : List Scope) : List Requirement → Bool
  | [] => true
  | p :: ps => isMet held p && allMet held ps

/-- Whether some requirement of a list is met. -/
def anyMet (held : List Scope) : List Requirement → Bool
  | [] => false
  | p :: ps => isMet held p || anyMet held ps

end

/-- What is left of a group: nothing, its only part, or the group of the parts. -/
def collapse (group : List Requirement → Requirement) : List Requirement → Option Requirement
  | [] => none
  | [p] => some p
  | p :: q :: ps => some (group (p :: q :: ps))

mutual

/-- The part of a requirement that the scopes held do not meet; absent if it is met. -/
def missing (held : List Scope) : Requirement → Option Requirement
  | .scope s => if held.contains s then none else some (.scope s)
  | .all ps => collapse .all (gaps held ps)
  | .any ps =>
    if anyMet held ps then none
    else if ps.isEmpty then some (.any [])
    else collapse .any (gaps held ps)
  | .not p => if isMet held p then some (.not p) else none

/-- What is missing of each requirement of a list that is not met. -/
def gaps (held : List Scope) : List Requirement → List Requirement
  | [] => []
  | p :: ps =>
    match missing held p with
    | some r => r :: gaps held ps
    | none => gaps held ps

end

theorem collapse_eq_none_iff {group : List Requirement → Requirement} {ps : List Requirement} :
    collapse group ps = none ↔ ps = [] := by
  match ps with
  | [] | [_] | _ :: _ :: _ => simp [collapse]

mutual

theorem missing_eq_none_iff (held : List Scope) :
    ∀ p : Requirement, missing held p = none ↔ isMet held p = true
  | .scope s => by simp [missing, isMet]
  | .all ps => by
    rw [missing, isMet, collapse_eq_none_iff]; exact (gaps_eq_nil_iff held ps)
  | .any ps => by
    rw [missing, isMet]
    cases h : anyMet held ps
    · simp only [Bool.false_eq_true, if_false, iff_false]
      cases ps with
      | nil => simp
      | cons p ps =>
        simp only [List.isEmpty_cons, Bool.false_eq_true, if_false, collapse_eq_none_iff]
        intro hg
        have := (gaps_eq_nil_iff held (p :: ps)).1 hg
        simp_all [allMet, anyMet]
    · simp
  | .not p => by
    rw [missing, isMet]; cases isMet held p <;> simp

theorem gaps_eq_nil_iff (held : List Scope) :
    ∀ ps : List Requirement, gaps held ps = [] ↔ allMet held ps = true
  | [] => by simp [gaps, allMet]
  | p :: ps => by
    have hp := missing_eq_none_iff held p
    rw [gaps, allMet]
    cases h : missing held p with
    | none => simp [hp.1 h, gaps_eq_nil_iff held ps]
    | some r =>
      have : isMet held p ≠ true := fun e => by simp [hp.2 e] at h
      simp [this]

end

end Requirement

end Bearer
