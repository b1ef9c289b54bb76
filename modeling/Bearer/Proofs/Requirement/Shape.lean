import Bearer.Proofs.Requirement.Residual

/-!
# The shape of what is left

What pruning leaves of a requirement is made of pieces of it: the scopes that are not held, the
negations that are broken, and groups of at least two of these, with the impossible disjunctions
that stood there from the start. No part of it that no negation is above is met, so nothing more
could be pruned, and nothing in it is new, doubled or out of its place.

* `missing_all_iff`, `missing_any_iff`: what is missing of a group.
* `exists_isLeftOf`: every node that is left is what is left of a node.
* `sublist_of_missing`: what is read off the tree from left to right is kept in its order.
* `missing_minimal`: all of it.
-/
namespace Bearer.Requirement

variable {held : List Scope} {n p r : Requirement} {ps : List Requirement}

/-! ## What is missing of a node -/

theorem mem_gaps : r ∈ gaps held ps ↔ ∃ p ∈ ps, missing held p = some r := by
  rw [gaps_eq_filterMap, List.mem_filterMap]

theorem collapse_eq_some_iff {group : List Requirement → Requirement} {rs : List Requirement} :
    collapse group rs = some r ↔ rs = [r] ∨ 2 ≤ rs.length ∧ r = group rs := by
  match rs with
  | [] => simp [collapse]
  | [q] => simp [collapse]
  | q :: q' :: rs => simp [collapse, eq_comm]

theorem missing_scope_iff {s : Scope} :
    missing held (.scope s) = some r ↔ s ∉ held ∧ r = .scope s := by
  by_cases hs : s ∈ held
  · simp [missing, hs]
  · simp [missing, hs, eq_comm]

theorem missing_not_iff :
    missing held (.not p) = some r ↔ isMet held p = true ∧ r = .not p := by
  cases hp : isMet held p <;> simp [missing, hp, eq_comm]

/-- Of a conjunction the gaps of its parts are missing, unwrapped if there is one. -/
theorem missing_all_iff :
    missing held (.all ps) = some r ↔
      gaps held ps = [r] ∨ 2 ≤ (gaps held ps).length ∧ r = .all (gaps held ps) :=
  collapse_eq_some_iff

/-- Of an unmet disjunction it is the same, unless it never had a part. -/
theorem missing_any_iff :
    missing held (.any ps) = some r ↔
      anyMet held ps = false ∧ (ps = [] ∧ r = .any [] ∨ gaps held ps = [r] ∨
        2 ≤ (gaps held ps).length ∧ r = .any (gaps held ps)) := by
  rw [missing]
  cases hu : anyMet held ps with
  | true => simp
  | false =>
    cases ps with
    | nil => simp [gaps, eq_comm]
    | cons q qs => simp [collapse_eq_some_iff]

/-- What is missing is not met. -/
theorem not_isMet_of_missing (h : missing held p = some r) : isMet held r = false := by
  rw [isMet_eq_isNone, missing_idem h]
  rfl

/-! ## The nodes that are left -/

/-- What is missing of `q` is `n`, and no group of one part was kept for it. -/
structure IsLeftOf (held : List Scope) (q n : Requirement) : Prop where
  missing : missing held q = some n
  all : ∀ qs, n = .all qs → 2 ≤ qs.length
  any : ∀ qs, n = .any qs → 2 ≤ qs.length ∨ q = .any []

/-- A node of a gap is left of a node of the parts, if that holds of what is missing of each. -/
theorem exists_isLeftOf_gaps
    (ih : ∀ p ∈ ps, ∀ {r}, Requirement.missing held p = some r → ∀ n ∈ nodes r,
      ∃ q ∈ nodes p, IsLeftOf held q n) :
    ∀ g ∈ gaps held ps, ∀ n ∈ nodes g, ∃ p ∈ ps, ∃ q ∈ nodes p, IsLeftOf held q n := by
  intro g hg n hn
  obtain ⟨p, hp, hmissing⟩ := mem_gaps.1 hg
  exact ⟨p, hp, ih p hp hmissing n hn⟩

/-- Every node that is left is what is left of a node of the requirement. -/
theorem exists_isLeftOf (h : missing held p = some r) :
    ∀ n ∈ nodes r, ∃ q ∈ nodes p, IsLeftOf held q n := by
  induction p generalizing r with
  | scope s =>
    obtain ⟨-, rfl⟩ := missing_scope_iff.1 h
    intro n hn
    rw [List.mem_singleton.1 hn]
    exact ⟨_, List.mem_singleton.2 rfl, h, nofun, nofun⟩
  | not p =>
    obtain ⟨-, rfl⟩ := missing_not_iff.1 h
    intro n hn
    rw [List.mem_singleton.1 hn]
    exact ⟨_, List.mem_singleton.2 rfl, h, nofun, nofun⟩
  | all ps ih =>
    have hbelow : ∀ g ∈ gaps held ps, ∀ n ∈ nodes g, ∃ q ∈ nodes (.all ps), IsLeftOf held q n := by
      intro g hg n hn
      obtain ⟨p, hp, q, hq, hleft⟩ := exists_isLeftOf_gaps ih g hg n hn
      exact ⟨q, mem_nodes_all.2 (.inr ⟨p, hp, hq⟩), hleft⟩
    rcases missing_all_iff.1 h with hone | ⟨hmore, rfl⟩
    · exact hbelow r (by simp [hone])
    · intro n hn
      rcases mem_nodes_all.1 hn with rfl | ⟨g, hg, hn⟩
      · exact ⟨_, mem_nodes_all.2 (.inl rfl), h, by simpa using hmore, nofun⟩
      · exact hbelow g hg n hn
  | any ps ih =>
    have hbelow : ∀ g ∈ gaps held ps, ∀ n ∈ nodes g, ∃ q ∈ nodes (.any ps), IsLeftOf held q n := by
      intro g hg n hn
      obtain ⟨p, hp, q, hq, hleft⟩ := exists_isLeftOf_gaps ih g hg n hn
      exact ⟨q, mem_nodes_any.2 (.inr ⟨p, hp, hq⟩), hleft⟩
    obtain ⟨-, ⟨rfl, rfl⟩ | hone | ⟨hmore, rfl⟩⟩ := missing_any_iff.1 h
    · intro n hn
      rw [List.mem_singleton.1 hn]
      exact ⟨_, List.mem_singleton.2 rfl, h, nofun, fun _ _ => .inr rfl⟩
    · exact hbelow r (by simp [hone])
    · intro n hn
      rcases mem_nodes_any.1 hn with rfl | ⟨g, hg, hn⟩
      · exact ⟨_, mem_nodes_any.2 (.inl rfl), h, nofun, fun qs hqs => .inl (by simp_all)⟩
      · exact hbelow g hg n hn

/-- No node that is left is met. -/
theorem nodes_unmet (h : missing held p = some r) : ∀ n ∈ nodes r, isMet held n = false := by
  intro n hn
  obtain ⟨q, -, hleft⟩ := exists_isLeftOf h n hn
  exact not_isMet_of_missing hleft.missing

/-- A conjunction that is left has at least two parts. -/
theorem all_of_missing {qs : List Requirement} (h : missing held p = some r)
    (hqs : .all qs ∈ nodes r) : 2 ≤ qs.length := by
  obtain ⟨q, -, hleft⟩ := exists_isLeftOf h _ hqs
  exact hleft.all qs rfl

/-- So has a disjunction, unless it has none and stood there from the start. -/
theorem any_of_missing {qs : List Requirement} (h : missing held p = some r)
    (hqs : .any qs ∈ nodes r) : 2 ≤ qs.length ∨ qs = [] ∧ .any [] ∈ nodes p := by
  obtain ⟨q, hq, hleft⟩ := exists_isLeftOf h _ hqs
  rcases hleft.any qs rfl with hmore | rfl
  · exact .inl hmore
  · have hnever : some (any []) = some (any qs) := hleft.missing
    exact .inr ⟨by simpa using hnever.symm, hq⟩

/-! ## What is read from left to right -/

/-- What is read off the gaps of a group is read off its parts, in their order, if that holds of
each part. -/
theorem flatMap_gaps_sublist {α : Type} {f : Requirement → List α}
    (h : ∀ p ∈ ps, ∀ r, missing held p = some r → (f r).Sublist (f p)) :
    ((gaps held ps).flatMap f).Sublist (ps.flatMap f) := by
  induction ps with
  | nil => exact List.Sublist.refl _
  | cons p ps ih =>
    have hps := ih fun q hq => h q (List.mem_cons_of_mem p hq)
    rw [gaps]
    cases hp : missing held p with
    | none => exact hps.trans (List.sublist_append_right _ _)
    | some r => exact (h p List.mem_cons_self r hp).append hps

/-- What a tree is read as from left to right, part by part, keeps its order. -/
theorem sublist_of_missing {α : Type} {f : Requirement → List α}
    (hall : ∀ ps, f (.all ps) = ps.flatMap f) (hany : ∀ ps, f (.any ps) = ps.flatMap f)
    (h : missing held p = some r) : (f r).Sublist (f p) := by
  induction p generalizing r with
  | scope s =>
    obtain ⟨-, rfl⟩ := missing_scope_iff.1 h
    exact List.Sublist.refl _
  | not p =>
    obtain ⟨-, rfl⟩ := missing_not_iff.1 h
    exact List.Sublist.refl _
  | all ps ih =>
    have hgaps := flatMap_gaps_sublist fun p hp r hr => ih p hp hr
    rcases missing_all_iff.1 h with hone | ⟨-, rfl⟩
    · rw [hone, List.flatMap_singleton] at hgaps
      rwa [hall]
    · rwa [hall, hall]
  | any ps ih =>
    have hgaps := flatMap_gaps_sublist fun p hp r hr => ih p hp hr
    obtain ⟨-, ⟨rfl, rfl⟩ | hone | ⟨-, rfl⟩⟩ := missing_any_iff.1 h
    · exact List.Sublist.refl _
    · rw [hone, List.flatMap_singleton] at hgaps
      rwa [hany]
    · rwa [hany, hany]

theorem leaves_sublist (h : missing held p = some r) : r.leaves.Sublist p.leaves :=
  sublist_of_missing (fun ps => by rw [leaves, leavesIn_eq_flatMap])
    (fun ps => by rw [leaves, leavesIn_eq_flatMap]) h

theorem negations_sublist (h : missing held p = some r) : r.negations.Sublist p.negations :=
  sublist_of_missing (fun ps => by rw [negations, negationsIn_eq_flatMap])
    (fun ps => by rw [negations, negationsIn_eq_flatMap]) h

/-! ## All of it -/

/-- `r` has the shape of what the scopes held leave of `p`. -/
structure IsRest (held : List Scope) (p r : Requirement) : Prop where
  /-- Nothing more can be pruned. -/
  stable : missing held r = some r
  /-- No node that no negation is above is met. -/
  unmet : ∀ n ∈ r.nodes, isMet held n = false
  /-- The scopes among these nodes are not held. -/
  absent : ∀ s, .scope s ∈ r.nodes → s ∉ held
  /-- The outermost negations are such of `p`, in their order. -/
  negations : r.negations.Sublist p.negations
  /-- What they forbid is met. -/
  broken : ∀ n ∈ r.negations, ∃ q, n = .not q ∧ isMet held q = true
  /-- A conjunction has at least two parts. -/
  all : ∀ qs, .all qs ∈ r.nodes → 2 ≤ qs.length
  /-- So has a disjunction, unless it is one of `p` without parts. -/
  any : ∀ qs, .any qs ∈ r.nodes → 2 ≤ qs.length ∨ qs = [] ∧ .any [] ∈ p.nodes
  /-- The leaves are leaves of `p`, in their order. -/
  leaves : r.leaves.Sublist p.leaves

/-- What is missing of a requirement is no more than it must be, and stands as it did. -/
theorem missing_minimal (h : missing held p = some r) : IsRest held p r where
  stable := missing_idem h
  unmet := nodes_unmet h
  absent s hs := by simpa [isMet] using nodes_unmet h _ hs
  negations := negations_sublist h
  broken n hn := by
    obtain ⟨⟨q, rfl⟩, hnode⟩ := mem_nodes_of_mem_negations hn
    exact ⟨q, rfl, by simpa [isMet] using nodes_unmet h _ hnode⟩
  all _ := all_of_missing h
  any _ := any_of_missing h
  leaves := leaves_sublist h

/-- One group is pruned away, one unwrapped to what is left of it, one kept without its first
part. -/
theorem missing_minimal_nested :
    let p : Requirement :=
      .any [.all [.scope ⟨"a"⟩, .any [.scope ⟨"b"⟩, .scope ⟨"c"⟩], .not (.scope ⟨"a"⟩), .any []],
        .all [.scope ⟨"a"⟩, .scope ⟨"d"⟩]]
    let r : Requirement :=
      .any [.all [.not (.scope ⟨"a"⟩), .any []], .scope ⟨"d"⟩]
    missing [⟨"a"⟩, ⟨"b"⟩] p = some r ∧ IsRest [⟨"a"⟩, ⟨"b"⟩] p r := by
  intro p r
  have h : missing [⟨"a"⟩, ⟨"b"⟩] p = some r := by decide
  exact ⟨h, missing_minimal h⟩

end Bearer.Requirement
