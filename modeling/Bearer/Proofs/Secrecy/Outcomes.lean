/-!
# Outcomes that are alike

Two computations that should not be told apart either fail with the same error or both succeed with
results that are alike. Some errors may be left out of the comparison: then nothing is said of two
outcomes of which one is such an error.

* `Alike.bind`, `Alike.mapError`: what goes on alike from outcomes that are alike ends alike.
-/
namespace Bearer

theorem bind_eq_ok {ε α β : Type} {x : Except ε α} {f : α → Except ε β} {b : β}
    (h : (x >>= f) = .ok b) : ∃ a, x = .ok a ∧ f a = .ok b := by
  cases x with
  | error e => cases h
  | ok a => exact ⟨a, rfl, h⟩

theorem map_bind {ε α β γ : Type} (x : Except ε α) (f : α → Except ε β) (g : β → γ) :
    (x >>= f).map g = x >>= fun a => (f a).map g := by
  cases x <;> rfl

/-- Two outcomes are the same error or results that are alike, unless one of them is an error that
is left out. -/
inductive Alike {ε α β : Type} (out : ε → Prop) (R : α → β → Prop) :
    Except ε α → Except ε β → Prop
  | left {e : ε} (h : out e) (y : Except ε β) : Alike out R (.error e) y
  | right {e : ε} (h : out e) (x : Except ε α) : Alike out R x (.error e)
  | error (e : ε) : Alike out R (.error e) (.error e)
  | ok {a : α} {b : β} (h : R a b) : Alike out R (.ok a) (.ok b)

namespace Alike

variable {ε δ α β γ κ : Type} {out : ε → Prop} {R : α → β → Prop} {S : γ → κ → Prop}
  {x : Except ε α} {y : Except ε β}

/-- What is the same is alike. -/
theorem refl {T : α → α → Prop} (hT : ∀ a, T a a) (x : Except ε α) : Alike out T x x := by
  cases x with
  | error e => exact .error e
  | ok a => exact .ok (hT a)

theorem of_eq {z : Except ε α} (h : x = z) : Alike out Eq x z := by
  subst h
  exact refl (fun _ => rfl) x

theorem bind (h : Alike out R x y) {f : α → Except ε γ} {g : β → Except ε κ}
    (hfg : ∀ a b, R a b → Alike out S (f a) (g b)) : Alike out S (x >>= f) (y >>= g) := by
  cases h with
  | left h y => exact .left h _
  | right h x => exact .right h _
  | error e => exact .error e
  | ok h => exact hfg _ _ h

theorem map (h : Alike out R x y) {f : α → γ} {g : β → κ} (hfg : ∀ a b, R a b → S (f a) (g b)) :
    Alike out S (x.map f) (y.map g) := by
  cases h with
  | left h y => exact .left h _
  | right h x => exact .right h _
  | error e => exact .error e
  | ok h => exact .ok (hfg _ _ h)

/-- Errors may be seen as others, if those that are left out stay so. -/
theorem mapError (h : Alike out R x y) {out' : δ → Prop} {f : ε → δ}
    (hf : ∀ e, out e → out' (f e)) : Alike out' R (x.mapError f) (y.mapError f) := by
  cases h with
  | left h y => exact .left (hf _ h) _
  | right h x => exact .right (hf _ h) _
  | error e => exact .error (f e)
  | ok h => exact .ok h

end Alike

end Bearer
