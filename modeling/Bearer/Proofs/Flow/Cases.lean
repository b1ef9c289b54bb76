import Bearer.Flow.World

/-!
# How flows end

Lemmas that take a run of a flow apart. Of two flows one after another either the first one fails,
and its failure is that of both, or the second one ends where the first one got to. A flow beside
what is held ends as it does alone. A flow whose faults are handled fails with a fault of what
handles them, or breaks off as it would have anyway.

* `bind_cases`: two flows one after another.
* `beside_eq`, `beside_held`, `beside_cases`: a flow on the world beside what is held.
* `mapFault_eq_ok_iff`: what success is does not depend on the faults.
* `handle_ne_fault`, `prepare_ne_fault`: faults that a flow does not end with.
-/
namespace Bearer.Flow

variable {w h ε δ α β : Type}

/-! ## Two flows -/

/-- Of two flows one after another the first one fails, or the second one ends. -/
theorem bind_cases {f : Flow w ε α} {g : α → Flow w ε β} {s t : w} {r : Except (Failure ε) β}
    (hrun : (f >>= g) s = (r, t)) :
    (∃ e, f s = (.error e, t) ∧ r = .error e) ∨ ∃ a u, f s = (.ok a, u) ∧ g a u = (r, t) := by
  rw [bind_apply] at hrun
  split at hrun
  · rename_i a u hf
    exact .inr ⟨a, u, hf, hrun⟩
  · rename_i e u hf
    cases hrun
    exact .inl ⟨e, hf, rfl⟩

/-- A flow of which the result is known ends with it somewhere. -/
theorem ends_of_fst {f : Flow w ε α} {s : w} {r : Except (Failure ε) α} (h : (f s).1 = r) :
    f s = (r, (f s).2) :=
  Prod.ext h rfl

/-! ## What is held -/

theorem beside_eq {f : Flow w ε α} {s t : w} {r : Except (Failure ε) α} (hf : f s = (r, t))
    (x : h) : (f.beside : Flow (h × w) ε α) (x, s) = (r, (x, t)) := by
  rw [beside_apply, hf]

/-- What is held outlasts a flow on the world. -/
theorem beside_held {f : Flow w ε α} {s t : h × w} {r : Except (Failure ε) α}
    (hf : f.beside s = (r, t)) : t.1 = s.1 ∧ f s.2 = (r, t.2) := by
  rw [beside_apply] at hf
  cases hf
  exact ⟨rfl, rfl⟩

/-- A flow on the world fails, or what comes behind it ends with what was held before. -/
theorem beside_cases {f : Flow w ε α} {g : α → Flow (h × w) ε β} {s t : h × w}
    {r : Except (Failure ε) β} (hrun : (f.beside >>= g) s = (r, t)) :
    (∃ e, r = .error e ∧ t.1 = s.1 ∧ f s.2 = (.error e, t.2)) ∨
      ∃ a u, f s.2 = (.ok a, u) ∧ g a (s.1, u) = (r, t) := by
  rcases bind_cases hrun with ⟨e, hf, hr⟩ | ⟨a, ⟨x, u⟩, hf, hg⟩
  · exact .inl ⟨e, hr, beside_held hf⟩
  · obtain ⟨rfl, hf⟩ := beside_held hf
    exact .inr ⟨a, u, hf, hg⟩

/-! ## Faults -/

theorem mapFault_eq (g : ε → δ) {f : Flow w ε α} {s t : w} {r : Except (Failure ε) α}
    (hf : f s = (r, t)) : f.mapFault g s = (r.mapError (Failure.map g), t) := by
  rw [mapFault_apply, hf]

theorem mapError_error (f : ε → δ) (e : ε) :
    (Except.error e : Except ε α).mapError f = .error (f e) := rfl

theorem mapError_ok (f : ε → δ) (a : α) : (Except.ok a : Except ε α).mapError f = .ok a := rfl

theorem mapError_eq_ok_iff {f : ε → δ} {x : Except ε α} {a : α} :
    x.mapError f = .ok a ↔ x = .ok a := by
  cases x with
  | error e => simp [mapError_error]
  | ok b => simp [mapError_ok]

/-- A flow whose faults are seen as others succeeds as it does alone. -/
theorem mapFault_eq_ok_iff {g : ε → δ} {f : Flow w ε α} {s t : w} {a : α} :
    f.mapFault g s = (.ok a, t) ↔ f s = (.ok a, t) := by
  rw [mapFault_apply, Prod.mk.injEq, mapError_eq_ok_iff, ← Prod.mk.injEq]

/-- A fault that no handler ends with is none of the whole. -/
theorem handle_ne_fault {f : Flow w ε α} {g : ε → Flow w δ α} {d : δ}
    (hg : ∀ x u e v, g x u = (.error e, v) → e ≠ .fault d) {s t : w} {e : Failure δ}
    (hrun : f.handle g s = (.error e, t)) : e ≠ .fault d := by
  unfold handle at hrun
  split at hrun
  · cases hrun
  · exact hg _ _ _ _ hrun
  · cases hrun
    exact nofun

theorem mapFault_ne_fault {f : Flow w ε α} {g : ε → δ} {d : δ} (hg : ∀ x, g x ≠ d) {s t : w}
    {e : Failure δ} (hrun : f.mapFault g s = (.error e, t)) : e ≠ .fault d := by
  refine handle_ne_fault (fun x u e v hfail => ?_) hrun
  cases hfail
  exact fun hfault => hg x (Failure.fault.inj hfault)

/-- What cannot be made of the settings is no fault. -/
theorem prepare_ne_fault {σ τ : Type} {make : Answer.Loaded → Except Escape α} {d : ε}
    {s t : World σ τ} {e : Failure ε} (hrun : prepare make s = (.error e, t)) : e ≠ .fault d := by
  rw [prepare_apply] at hrun
  cases hmake : make s.settings with
  | ok a => rw [hmake] at hrun; cases hrun
  | error x =>
    rw [hmake] at hrun
    cases hrun
    exact nofun

end Bearer.Flow
