import Bearer.Proofs.Requirement.Nodes

/-!
# What is left of a requirement

`missing held p` is what the scopes that are held leave of `p`. When more scopes are held, what is
missing of the rest is what is missing of the whole requirement, tree for tree: pruning may be done
in steps. Negations stand in the way of that, since more scopes can break them; it is enough that
the outermost negations that are met stay met, and a positive requirement has none.

* `missing_bind`: pruning in two steps is pruning at once.
* `missing_sound`: nothing is missing exactly when the requirement is met, and what is missing is
  never met.
* `missing_closes`: with more scopes held, the rest and the whole requirement miss the same.
-/
namespace Bearer.Requirement

variable {held more : List Scope}

/-! ## Groups with one part -/

theorem missing_all_singleton (r : Requirement) : missing more (.all [r]) = missing more r := by
  rw [missing, gaps_eq_filterMap, List.filterMap_cons]
  cases missing more r <;> rfl

theorem missing_any_singleton (r : Requirement) : missing more (.any [r]) = missing more r := by
  rw [missing, anyMet_eq_any, gaps_eq_filterMap, List.filterMap_cons]
  cases hr : missing more r with
  | none => simp [(missing_eq_none_iff more r).1 hr]
  | some q =>
    have hm : isMet more r = false := by
      rw [← Bool.not_eq_true, ← missing_eq_none_iff more r, hr]
      exact Option.some_ne_none q
    simp [hm, collapse]

/-- Unwrapping a conjunction with one part left changes nothing that is missing later. -/
theorem collapse_all_bind (more : List Scope) (rs : List Requirement) :
    (collapse .all rs).bind (missing more) = missing more (.all rs) := by
  match rs with
  | [] => rfl
  | [r] => exact (missing_all_singleton r).symm
  | _ :: _ :: _ => rfl

/-- Unwrapping a disjunction does not either, unless it was empty. -/
theorem collapse_any_bind (more : List Scope) {rs : List Requirement} (h : rs ≠ []) :
    (collapse .any rs).bind (missing more) = missing more (.any rs) := by
  match rs with
  | [] => exact absurd rfl h
  | [r] => exact (missing_any_singleton r).symm
  | _ :: _ :: _ => rfl

/-! ## Pruning in steps -/

/-- The outermost negations of `p` that are met stay met. -/
def KeepsNegations (held more : List Scope) (p : Requirement) : Prop :=
  ∀ n ∈ p.negations, isMet held n = true → isMet more n = true

instance (held more : List Scope) (p : Requirement) : Decidable (KeepsNegations held more p) :=
  inferInstanceAs (Decidable (∀ n ∈ p.negations, _))

theorem keepsNegations_self (held : List Scope) (p : Requirement) : KeepsNegations held held p :=
  fun _ _ hn => hn

theorem keepsNegations_of_isPositive {p : Requirement} (h : p.isPositive = true) :
    KeepsNegations held more p := by
  intro n hn
  rw [(negations_eq_nil_iff p).2 h] at hn
  exact absurd hn List.not_mem_nil

theorem KeepsNegations.of_all {ps : List Requirement} (h : KeepsNegations held more (.all ps)) :
    ∀ p ∈ ps, KeepsNegations held more p :=
  fun p hp n hn => h n (mem_negations_all.2 ⟨p, hp, hn⟩)

theorem KeepsNegations.of_any {ps : List Requirement} (h : KeepsNegations held more (.any ps)) :
    ∀ p ∈ ps, KeepsNegations held more p :=
  fun p hp n hn => h n (mem_negations_any.2 ⟨p, hp, hn⟩)

/-- What is missing of the gaps of a group is what is missing of its parts, if that holds of each
part. -/
theorem gaps_gaps {ps : List Requirement}
    (h : ∀ p ∈ ps, (missing held p).bind (missing more) = missing more p) :
    gaps more (gaps held ps) = gaps more ps := by
  rw [gaps_eq_filterMap, gaps_eq_filterMap, gaps_eq_filterMap, List.filterMap_filterMap]
  exact List.filterMap_congr h

theorem isMet_eq_isNone (held : List Scope) (p : Requirement) :
    isMet held p = (missing held p).isNone := by
  rw [Bool.eq_iff_iff, Option.isNone_iff_eq_none, missing_eq_none_iff]

/-- The parts of an unmet disjunction that become met are those whose gaps become met. -/
theorem anyMet_gaps {ps : List Requirement} (hu : anyMet held ps = false)
    (h : ∀ p ∈ ps, (missing held p).bind (missing more) = missing more p) :
    anyMet more (gaps held ps) = anyMet more ps := by
  rw [anyMet_eq_any, List.any_eq_false] at hu
  rw [anyMet_eq_any, anyMet_eq_any, gaps_eq_filterMap, List.any_filterMap, Bool.eq_iff_iff,
    List.any_eq_true, List.any_eq_true]
  refine exists_congr fun p => and_congr_right fun hp => ?_
  rw [isMet_eq_isNone more p, ← h p hp]
  cases hm : missing held p with
  | none => exact absurd ((missing_eq_none_iff held p).1 hm) (hu p hp)
  | some r =>
    show isMet more r = true ↔ (missing more r).isNone = true
    rw [isMet_eq_isNone]

theorem gaps_ne_nil_of_not_anyMet {ps : List Requirement} (hu : anyMet held ps = false)
    (hne : ps ≠ []) : gaps held ps ≠ [] := by
  obtain ⟨p, hp⟩ := List.exists_mem_of_ne_nil ps hne
  intro hg
  have hall := (gaps_eq_nil_iff held ps).1 hg
  rw [allMet_eq_all, List.all_eq_true] at hall
  rw [anyMet_eq_any, List.any_eq_false] at hu
  exact hu p hp (hall p hp)

/-- Pruning by the scopes that are held and then by more is pruning by more at once. -/
theorem missing_bind (hsub : held ⊆ more) (p : Requirement) (hneg : KeepsNegations held more p) :
    (missing held p).bind (missing more) = missing more p := by
  induction p with
  | scope s =>
    by_cases hs : s ∈ held
    · simp [missing, hs, hsub hs]
    · simp [missing, hs]
  | all ps ih =>
    rw [missing, collapse_all_bind, missing, missing]
    exact congrArg _ (gaps_gaps fun p hp => ih p hp (hneg.of_all p hp))
  | any ps ih =>
    have hparts := fun p hp => ih p hp (hneg.of_any p hp)
    cases hu : anyMet held ps with
    | true =>
      -- a part that was met has no gap, so by induction it has none with more scopes either
      rw [anyMet_eq_any, List.any_eq_true] at hu
      obtain ⟨p, hp, hm⟩ := hu
      have hmore : missing more p = none := by
        rw [← hparts p hp, (missing_eq_none_iff held p).2 hm]
        rfl
      have hany : isMet more (.any ps) = true :=
        isMet_any.2 ⟨p, hp, (missing_eq_none_iff more p).1 hmore⟩
      rw [(missing_eq_none_iff held (.any ps)).2 (isMet_any.2 ⟨p, hp, hm⟩),
        (missing_eq_none_iff more (.any ps)).2 hany]
      rfl
    | false =>
      cases ps with
      | nil => rfl
      | cons p ps =>
        have hne := gaps_ne_nil_of_not_anyMet hu (List.cons_ne_nil p ps)
        have hheld : missing held (.any (p :: ps)) = collapse .any (gaps held (p :: ps)) := by
          simp [missing, hu]
        rw [hheld, collapse_any_bind more hne, missing, missing, anyMet_gaps hu hparts,
          gaps_gaps hparts, List.isEmpty_eq_false_iff.2 hne, List.isEmpty_cons]
  | not p =>
    cases hm : isMet held p with
    | true => simp [missing, hm]
    | false =>
      have hmore : isMet more (.not p) = true :=
        hneg _ (List.mem_singleton.2 rfl) (isMet_not.2 hm)
      rw [(missing_eq_none_iff more (.not p)).2 hmore,
        (missing_eq_none_iff held (.not p)).2 (isMet_not.2 hm)]
      rfl

/-- What is missing misses itself. -/
theorem missing_idem {p r : Requirement} (h : missing held p = some r) :
    missing held r = some r := by
  have hb := missing_bind (List.Subset.refl held) p (keepsNegations_self held p)
  rw [h] at hb
  exact hb

/-! ## What missing means -/

/-- Nothing is missing of a requirement exactly when it is met, and what is missing is not met by
the scopes that leave it. -/
theorem missing_sound (held : List Scope) (p : Requirement) :
    (isMet held p = true ↔ missing held p = none) ∧
      ∀ r, missing held p = some r → isMet held r = false := by
  refine ⟨(missing_eq_none_iff held p).symm, fun r h => ?_⟩
  rw [isMet_eq_isNone, missing_idem h]
  rfl

theorem missing_sound_nested :
    missing [⟨"b"⟩] (.all [.scope ⟨"a"⟩, .any [.scope ⟨"b"⟩, .not (.any [])], .any []]) =
        some (.all [.scope ⟨"a"⟩, .any []]) ∧
      isMet [⟨"b"⟩] (.all [.scope ⟨"a"⟩, .any []]) = false := by
  have h : missing [⟨"b"⟩] (.all [.scope ⟨"a"⟩, .any [.scope ⟨"b"⟩, .not (.any [])], .any []]) =
      some (.all [.scope ⟨"a"⟩, .any []]) := by decide
  exact ⟨h, (missing_sound _ _).2 _ h⟩

/-- With more scopes held that keep the outermost negations met, the same is missing of what was
missing as of the whole requirement, so that the one is met exactly when the other is. A positive
requirement needs no condition. -/
theorem missing_closes {p r : Requirement} (hsub : held ⊆ more)
    (hneg : KeepsNegations held more p ∨ p.isPositive = true) (h : missing held p = some r) :
    missing more p = missing more r ∧ (isMet more r = true ↔ isMet more p = true) := by
  have hkeeps : KeepsNegations held more p := by
    rcases hneg with hneg | hp
    · exact hneg
    · exact keepsNegations_of_isPositive hp
  have hb := missing_bind hsub p hkeeps
  rw [h] at hb
  refine ⟨hb.symm, ?_⟩
  rw [isMet_eq_isNone, isMet_eq_isNone, ← hb]
  rfl

/-- One negation is broken before and after, one is met and stays so, and a disjunction closes. -/
theorem missing_closes_step :
    let p : Requirement :=
      .all [.scope ⟨"a"⟩, .any [.scope ⟨"b"⟩, .scope ⟨"c"⟩], .not (.scope ⟨"d"⟩),
        .not (.all [.scope ⟨"d"⟩, .scope ⟨"e"⟩])]
    let r : Requirement :=
      .all [.scope ⟨"a"⟩, .any [.scope ⟨"b"⟩, .scope ⟨"c"⟩], .not (.scope ⟨"d"⟩)]
    missing [⟨"d"⟩] p = some r ∧ KeepsNegations [⟨"d"⟩] [⟨"d"⟩, ⟨"b"⟩] p ∧
      missing [⟨"d"⟩, ⟨"b"⟩] p = missing [⟨"d"⟩, ⟨"b"⟩] r ∧
      (isMet [⟨"d"⟩, ⟨"b"⟩] r = true ↔ isMet [⟨"d"⟩, ⟨"b"⟩] p = true) := by
  intro p r
  have h : missing [⟨"d"⟩] p = some r := by decide
  have hneg : KeepsNegations [⟨"d"⟩] [⟨"d"⟩, ⟨"b"⟩] p := by decide
  have hsub : ([⟨"d"⟩] : List Scope) ⊆ [⟨"d"⟩, ⟨"b"⟩] := by decide
  exact ⟨h, hneg, missing_closes hsub (Or.inl hneg) h⟩

end Bearer.Requirement
