import Bearer.Proofs.Requirement.Shape

/-!
# What pruning takes for granted

The parts of a requirement that are met are pruned, so that nothing is said of them any more.
Whoever meets what is left has therefore met the requirement, as long as the parts that were pruned
stay met. A negation among these can be broken by the very scope that is asked for: then what was
left is met, and the requirement is not. Nothing else can go wrong, and a requirement is never met
while what was left of it is not.

* `isMet_of_missing`: what is left is never more than the requirement asks for.
* `isMet_of_pruned`: with what was pruned it is never less.
* `closing_meets`: closing the gap meets the requirement, or breaks a negation that was pruned.
* `closing_breaks_negation`: a requirement that is not met when the gap is closed.
-/
namespace Bearer.Requirement

variable {held more : List Scope} {p q r : Requirement} {ps : List Requirement}

/-! ## What is left of a group -/

/-- What is left of a conjunction is met when all gaps are closed. -/
theorem isMet_missing_all (h : missing held (.all ps) = some r) :
    isMet more r = true ↔ ∀ g ∈ gaps held ps, isMet more g = true := by
  rcases missing_all_iff.1 h with hone | ⟨-, rfl⟩
  · simp [hone]
  · exact isMet_all

/-- What is left of a disjunction is met when one gap is closed. -/
theorem isMet_missing_any (h : missing held (.any ps) = some r) :
    isMet more r = true ↔ ∃ g ∈ gaps held ps, isMet more g = true := by
  obtain ⟨-, ⟨rfl, rfl⟩ | hone | ⟨-, rfl⟩⟩ := missing_any_iff.1 h
  · exact isMet_any
  · simp [hone]
  · exact isMet_any

theorem missing_eq_some_of_not_isMet (h : isMet held p = false) : ∃ r, missing held p = some r := by
  rw [← Option.isSome_iff_exists, ← Option.not_isNone, ← isMet_eq_isNone, h]
  rfl

/-- Whatever meets a requirement meets what was left of it. -/
theorem isMet_of_missing (h : missing held p = some r) (hp : isMet more p = true) :
    isMet more r = true := by
  induction p generalizing r with
  | scope s =>
    obtain ⟨-, rfl⟩ := missing_scope_iff.1 h
    exact hp
  | not p =>
    obtain ⟨-, rfl⟩ := missing_not_iff.1 h
    exact hp
  | all ps ih =>
    refine (isMet_missing_all h).2 fun g hg => ?_
    obtain ⟨p, hmem, hgap⟩ := mem_gaps.1 hg
    exact ih p hmem hgap (isMet_all.1 hp p hmem)
  | any ps ih =>
    obtain ⟨p, hmem, hmet⟩ := isMet_any.1 hp
    have hunmet : isMet held p = false := by
      have hany := (missing_any_iff.1 h).1
      rw [anyMet_eq_any, List.any_eq_false] at hany
      simpa using hany p hmem
    obtain ⟨g, hgap⟩ := missing_eq_some_of_not_isMet hunmet
    exact (isMet_missing_any h).2 ⟨g, mem_gaps.2 ⟨p, hmem, hgap⟩, ih p hmem hgap hmet⟩

/-! ## What is pruned -/

mutual

/-- The parts of an unmet requirement that are pruned: those that are met in a group that is not. -/
def pruned (held : List Scope) : Requirement → List Requirement
  | .scope _ => []
  | .all ps => prunedIn held ps
  | .any ps => prunedIn held ps
  | .not _ => []

/-- The parts that are pruned of the parts of a group. -/
def prunedIn (held : List Scope) : List Requirement → List Requirement
  | [] => []
  | p :: ps => (if isMet held p then [p] else pruned held p) ++ prunedIn held ps

end

theorem mem_prunedIn :
    q ∈ prunedIn held ps ↔
      (q ∈ ps ∧ isMet held q = true) ∨ ∃ p ∈ ps, isMet held p = false ∧ q ∈ pruned held p := by
  induction ps with
  | nil => simp [prunedIn]
  | cons p ps ih =>
    rw [prunedIn, List.mem_append, ih]
    cases hp : isMet held p <;> grind

/-- What is pruned is met. -/
theorem isMet_of_mem_pruned (h : q ∈ pruned held p) : isMet held q = true := by
  induction p with
  | scope s => exact absurd h List.not_mem_nil
  | not p => exact absurd h List.not_mem_nil
  | all ps ih | any ps ih =>
    rcases mem_prunedIn.1 h with ⟨-, hmet⟩ | ⟨p, hp, -, hq⟩
    · exact hmet
    · exact ih p hp hq

/-- Whatever meets what was left of a requirement and what was pruned of it meets the requirement.
-/
theorem isMet_of_pruned (h : missing held p = some r) (hr : isMet more r = true)
    (hkept : ∀ q ∈ pruned held p, isMet more q = true) : isMet more p = true := by
  induction p generalizing r with
  | scope s =>
    obtain ⟨-, rfl⟩ := missing_scope_iff.1 h
    exact hr
  | not p =>
    obtain ⟨-, rfl⟩ := missing_not_iff.1 h
    exact hr
  | all ps ih =>
    refine isMet_all.2 fun p hmem => ?_
    cases hp : isMet held p with
    | true => exact hkept p (mem_prunedIn.2 (.inl ⟨hmem, hp⟩))
    | false =>
      obtain ⟨g, hgap⟩ := missing_eq_some_of_not_isMet hp
      have hg := (isMet_missing_all h).1 hr g (mem_gaps.2 ⟨p, hmem, hgap⟩)
      exact ih p hmem hgap hg fun q hq => hkept q (mem_prunedIn.2 (.inr ⟨p, hmem, hp, hq⟩))
  | any ps ih =>
    obtain ⟨g, hg, hmet⟩ := (isMet_missing_any h).1 hr
    obtain ⟨p, hmem, hgap⟩ := mem_gaps.1 hg
    have hp : isMet held p = false := by rw [isMet_eq_isNone, hgap]; rfl
    refine isMet_any.2 ⟨p, hmem, ?_⟩
    exact ih p hmem hgap hmet fun q hq => hkept q (mem_prunedIn.2 (.inr ⟨p, hmem, hp, hq⟩))

/-- A requirement that was met stays met unless one of its outermost negations is broken. -/
theorem isMet_or_broken (hsub : held ⊆ more) (h : isMet held p = true) :
    isMet more p = true ∨ ∃ n ∈ p.negations, isMet held n = true ∧ isMet more n = false := by
  by_cases hneg : KeepsNegations held more p
  · left
    rw [← missing_eq_none_iff, ← missing_bind hsub p hneg, (missing_eq_none_iff held p).2 h]
    rfl
  · right
    simpa [KeepsNegations] using hneg

/-! ## Closing the gap -/

/-- Closing the gap that is left meets the requirement, unless the scopes that close it break a
negation, met before, in a part that was pruned. Without closing the gap the requirement is not
met. -/
theorem closing_meets (h : missing held p = some r) (hsub : held ⊆ more) :
    (isMet more p = true → isMet more r = true) ∧
      (isMet more r = true → isMet more p = true ∨
        ∃ q ∈ pruned held p, ∃ n ∈ q.negations, isMet held n = true ∧ isMet more n = false) := by
  refine ⟨isMet_of_missing h, fun hr => ?_⟩
  by_cases hkept : ∀ q ∈ pruned held p, isMet more q = true
  · exact .inl (isMet_of_pruned h hr hkept)
  · simp only [not_forall] at hkept
    obtain ⟨q, hq, hbroken⟩ := hkept
    rcases isMet_or_broken hsub (isMet_of_mem_pruned hq) with hmet | hnegation
    · exact absurd hmet hbroken
    · exact .inr ⟨q, hq, hnegation⟩

/-- The negation that was pruned stays met here, and so does what was pruned with it. -/
theorem closing_meets_kept :
    let p : Requirement := .all [.any [.scope ⟨"a"⟩, .scope ⟨"b"⟩], .not (.scope ⟨"a"⟩)]
    let r : Requirement := .any [.scope ⟨"a"⟩, .scope ⟨"b"⟩]
    missing [] p = some r ∧ isMet [⟨"b"⟩] r = true ∧ isMet [⟨"b"⟩] p = true := by
  intro p r
  have h : missing [] p = some r := by decide
  have hr : isMet [⟨"b"⟩] r = true := by decide
  have hkept : ¬∃ q ∈ pruned [] p, ∃ n ∈ q.negations,
      isMet [] n = true ∧ isMet [⟨"b"⟩] n = false := by decide
  exact ⟨h, hr, ((closing_meets h (List.nil_subset _)).2 hr).resolve_right hkept⟩

/-- A scope that is named in what is left closes the gap and breaks the requirement. -/
theorem closing_breaks_negation :
    let p : Requirement := .all [.any [.scope ⟨"a"⟩, .scope ⟨"b"⟩], .not (.scope ⟨"a"⟩)]
    ∃ r, missing [] p = some r ∧ ⟨"a"⟩ ∈ r.leaves ∧ isMet ([] ++ [⟨"a"⟩]) r = true ∧
      isMet ([] ++ [⟨"a"⟩]) p = false :=
  ⟨.any [.scope ⟨"a"⟩, .scope ⟨"b"⟩], by decide⟩

end Bearer.Requirement
