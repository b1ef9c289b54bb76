import Bearer.Flow.World

/-!
# Flows that hold something, seen from the world

One who holds something acts on the world and on what is held. Whoever looks at the world alone sees
a flow on the world.

* `holding_beside`: what is done to the world is seen as it is.
* `holding_bind`: what goes on behind a flow is seen wherever the flow may end.
-/
namespace Bearer

namespace Flow

variable {w h ε δ α β : Type}

/-- A flow of one who holds something, which nobody looks at afterwards. -/
def holding (x : h) (f : Flow (h × w) ε α) : Flow w ε α := fun s =>
  ((f (x, s)).1, (f (x, s)).2.2)

@[simp] theorem holding_pure (x : h) (a : α) :
    holding x (pure a : Flow (h × w) ε α) = pure a := rfl

@[simp] theorem holding_fail (x : h) (e : ε) :
    holding x (fail e : Flow (h × w) ε α) = fail e := rfl

@[simp] theorem holding_held (x : h) (k : h → Flow (h × w) ε α) :
    holding x (held >>= k) = holding x (k x) := rfl

@[simp] theorem holding_hold (x y : h) (k : Unit → Flow (h × w) ε α) :
    holding x (hold y >>= k) = holding y (k ()) := rfl

@[simp] theorem holding_beside (x : h) (f : Flow w ε α) (k : α → Flow (h × w) ε β) :
    holding x (f.beside >>= k) = f >>= fun a => holding x (k a) := by
  funext s
  rw [holding, bind_apply, bind_apply, beside_apply]
  rcases f s with ⟨e | a, t⟩ <;> rfl

/-- What goes on behind a flow is seen from the world as `k'` if it is wherever the flow may end. -/
theorem holding_bind {x : h} {f : Flow (h × w) ε α} {k : α → Flow (h × w) ε β}
    {k' : α → Flow w ε β}
    (hk : ∀ s a y t, f (x, s) = (.ok a, (y, t)) → holding y (k a) t = k' a t) :
    holding x (f >>= k) = holding x f >>= k' := by
  funext s
  rw [holding, bind_apply, bind_apply, holding]
  rcases hf : f (x, s) with ⟨e | a, y, t⟩
  · rfl
  · exact hk s a y t hf

end Flow

end Bearer
