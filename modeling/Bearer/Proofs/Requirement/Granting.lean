import Bearer.Proofs.Requirement.Shape

/-!
# Granting what is missing

Whoever is told what is missing of a positive requirement grants scopes that it names. Granting all
of them is enough whenever anything is: scopes that are not named do not matter, and more scopes
never harm. Where no disjunction is without parts, it is enough to grant one choice of them, and
what is granted so was not held before.

* `isMet_mono`: more of the scopes that a positive requirement names keep it met.
* `isMet_rest_iff`: with more scopes held, what was left is met when the requirement is.
* `isMet_of_choice`: the scopes of one choice are enough.
* `granting_suffices`: all of it.
-/
namespace Bearer.Requirement

variable {held more : List Scope} {p r : Requirement}

/-! ## More scopes -/

/-- A positive requirement depends on the scopes that it names alone, and more of them keep it met.
-/
theorem isMet_mono (hp : p.isPositive = true) (hsub : ∀ s ∈ p.leaves, s ∈ held → s ∈ more)
    (h : isMet held p = true) : isMet more p = true := by
  induction p with
  | scope s =>
    have hs : s ∈ held := by simpa [isMet] using h
    simpa [isMet] using hsub s (List.mem_singleton.2 rfl) hs
  | all ps ih =>
    refine isMet_all.2 fun p hmem => ?_
    exact ih p hmem (arePositive_iff.1 hp p hmem)
      (fun s hs => hsub s (mem_leaves_all.2 ⟨p, hmem, hs⟩)) (isMet_all.1 h p hmem)
  | any ps ih =>
    obtain ⟨p, hmem, hmet⟩ := isMet_any.1 h
    refine isMet_any.2 ⟨p, hmem, ?_⟩
    exact ih p hmem (arePositive_iff.1 hp p hmem)
      (fun s hs => hsub s (mem_leaves_any.2 ⟨p, hmem, hs⟩)) hmet
  | not p => cases hp

/-- With more scopes held that keep the outermost negations met, what was left is met exactly when
the requirement is. -/
theorem isMet_rest_iff (hsub : held ⊆ more) (hneg : KeepsNegations held more p)
    (h : missing held p = some r) : isMet more r = true ↔ isMet more p = true := by
  have hb := missing_bind hsub p hneg
  rw [h, Option.bind_some] at hb
  rw [← missing_eq_none_iff, ← missing_eq_none_iff, hb]

/-- Nothing is negated in what is left of a positive requirement. -/
theorem isPositive_of_missing (hp : p.isPositive = true) (h : missing held p = some r) :
    r.isPositive = true := by
  rw [← negations_eq_nil_iff] at hp ⊢
  exact List.sublist_nil.1 (hp ▸ negations_sublist h)

/-- All scopes that are named in what is left are enough, if any scopes are. -/
theorem isMet_append_leaves (hp : p.isPositive = true) (h : missing held p = some r)
    {granted : List Scope} (hmet : isMet granted p = true) :
    isMet (held ++ r.leaves) r = true := by
  have hboth : isMet (held ++ granted) p = true :=
    isMet_mono hp (fun s _ hs => List.mem_append_right held hs) hmet
  have hr : isMet (held ++ granted) r = true :=
    (isMet_rest_iff (List.subset_append_left held granted) (keepsNegations_of_isPositive hp) h).2 hboth
  exact isMet_mono (isPositive_of_missing hp h) (fun s hs _ => List.mem_append_right held hs) hr

/-! ## One choice -/

mutual

/-- The scopes of one choice: of a conjunction those chosen for every part, of a disjunction those
for its first part. Nothing is chosen for a negation. -/
def choice : Requirement → List Scope
  | .scope s => [s]
  | .all ps => choices ps
  | .any [] => []
  | .any (p :: _) => choice p
  | .not _ => []

/-- The scopes chosen for several requirements. -/
def choices : List Requirement → List Scope
  | [] => []
  | p :: ps => choice p ++ choices ps

end

theorem mem_choices {s : Scope} {ps : List Requirement} :
    s ∈ choices ps ↔ ∃ p ∈ ps, s ∈ choice p := by
  induction ps with
  | nil => simp [choices]
  | cons p ps ih => simp [choices, ih]

/-- What is chosen stands in the requirement, and no negation is above it. -/
theorem mem_nodes_of_mem_choice {s : Scope} (h : s ∈ choice p) : .scope s ∈ nodes p := by
  induction p with
  | scope t =>
    obtain rfl : s = t := List.mem_singleton.1 h
    exact List.mem_singleton.2 rfl
  | all ps ih =>
    obtain ⟨p, hp, hs⟩ := mem_choices.1 h
    exact mem_nodes_all.2 (.inr ⟨p, hp, ih p hp hs⟩)
  | any ps ih =>
    cases ps with
    | nil => exact absurd h List.not_mem_nil
    | cons p ps => exact mem_nodes_any.2 (.inr ⟨p, List.mem_cons_self, ih p List.mem_cons_self h⟩)
  | not p => exact absurd h List.not_mem_nil

/-- The scopes of one choice are enough, if no disjunction is without parts. -/
theorem isMet_of_choice (hp : p.isPositive = true) (hnever : .any [] ∉ nodes p)
    (h : choice p ⊆ more) : isMet more p = true := by
  induction p with
  | scope s => simpa [isMet] using h (List.mem_singleton.2 rfl)
  | all ps ih =>
    refine isMet_all.2 fun p hmem => ?_
    exact ih p hmem (arePositive_iff.1 hp p hmem)
      (fun hn => hnever (mem_nodes_all.2 (.inr ⟨p, hmem, hn⟩)))
      fun s hs => h (mem_choices.2 ⟨p, hmem, hs⟩)
  | any ps ih =>
    cases ps with
    | nil => exact absurd (mem_nodes_any.2 (.inl rfl)) hnever
    | cons p ps =>
      refine isMet_any.2 ⟨p, List.mem_cons_self, ?_⟩
      exact ih p List.mem_cons_self (arePositive_iff.1 hp p List.mem_cons_self)
        (fun hn => hnever (mem_nodes_any.2 (.inr ⟨p, List.mem_cons_self, hn⟩))) h
  | not p => cases hp

/-- So are they for what is left of a requirement. -/
theorem isMet_append_choice (hp : p.isPositive = true) (hnever : .any [] ∉ nodes p)
    (h : missing held p = some r) : isMet (held ++ r.choice) r = true := by
  refine isMet_of_choice (isPositive_of_missing hp h) (fun hn => ?_)
    (List.subset_append_right held r.choice)
  rcases any_of_missing h hn with hmore | ⟨-, hn⟩
  · exact absurd hmore (by decide)
  · exact hnever hn

/-! ## Both -/

/-- What is enough of the scopes that are named in what is left of a positive requirement: all of
them if any scopes are enough at all, one choice of them if every disjunction has a part. -/
theorem granting_suffices (hp : p.isPositive = true) (h : missing held p = some r) :
    (isMet (held ++ r.leaves) p = true ↔ ∃ granted, isMet granted p = true) ∧
      (isMet (held ++ r.leaves) r = true ↔ ∃ granted, isMet granted p = true) ∧
      (.any [] ∉ nodes p → isMet (held ++ r.choice) p = true ∧ isMet (held ++ r.choice) r = true) ∧
      ∀ s ∈ r.choice, s ∉ held := by
  have hrest : ∀ new, isMet (held ++ new) r = true ↔ isMet (held ++ new) p = true := fun new =>
    isMet_rest_iff (List.subset_append_left held new) (keepsNegations_of_isPositive hp) h
  have hall : isMet (held ++ r.leaves) r = true ↔ ∃ granted, isMet granted p = true :=
    ⟨fun hr => ⟨_, (hrest _).1 hr⟩, fun ⟨_, hgranted⟩ => isMet_append_leaves hp h hgranted⟩
  refine ⟨(hrest _).symm.trans hall, hall, fun hnever => ?_, fun s hs => ?_⟩
  · have hchoice := isMet_append_choice hp hnever h
    exact ⟨(hrest _).1 hchoice, hchoice⟩
  · simpa [isMet] using nodes_unmet h _ (mem_nodes_of_mem_choice hs)

/-- One scope was held, one of a pair is chosen, and nothing is chosen of what was met. -/
theorem granting_suffices_pair :
    let p : Requirement :=
      .all [.scope ⟨"a"⟩, .any [.all [.scope ⟨"a"⟩, .scope ⟨"b"⟩], .scope ⟨"c"⟩], .scope ⟨"d"⟩]
    let r : Requirement := .all [.any [.scope ⟨"b"⟩, .scope ⟨"c"⟩], .scope ⟨"d"⟩]
    missing [⟨"a"⟩] p = some r ∧ p.isPositive = true ∧ .any [] ∉ p.nodes ∧
      r.choice = [⟨"b"⟩, ⟨"d"⟩] ∧ isMet ([⟨"a"⟩] ++ r.choice) p = true ∧
      isMet ([⟨"a"⟩] ++ r.leaves) p = true := by
  intro p r
  have h : missing [⟨"a"⟩] p = some r := by decide
  have hp : p.isPositive = true := by decide
  have hnever : .any [] ∉ p.nodes := by decide
  obtain ⟨hall, -, hchoice, -⟩ := granting_suffices hp h
  exact ⟨h, hp, hnever, by decide, (hchoice hnever).1, hall.2 ⟨_, (hchoice hnever).1⟩⟩

end Bearer.Requirement
