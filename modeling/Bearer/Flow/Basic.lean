import Bearer.Fault.Failure

/-!
# Flows

A flow acts on a state and ends with a result or a failure. Whatever it did to the state before it
failed stays done. A flow on the world can be run by one who holds something besides: what is held
is not touched by it. Who holds a part of something can be of service to who holds all of it.

* `bind_ok`, `bind_error`: flows run one after another until one fails.
* `beside_apply`: a flow on the world leaves what is held alone.
* `within_apply`: a flow on a part of what is held.
-/
namespace Bearer

/-- An action on a state `w` that gives an `α` or fails with an `ε`. -/
def Flow (w ε α : Type) : Type :=
  w → Except (Failure ε) α × w

namespace Flow

variable {w h p ε δ α β : Type}

/-- Goes on with the result of a flow, unless it failed. -/
def andThen (f : Flow w ε α) (g : α → Flow w ε β) : Flow w ε β := fun s =>
  match f s with
  | (.ok a, t) => g a t
  | (.error e, t) => (.error e, t)

instance : Monad (Flow w ε) where
  pure a := fun s => (.ok a, s)
  bind := andThen

@[simp] theorem pure_apply (a : α) (s : w) : (pure a : Flow w ε α) s = (.ok a, s) := rfl

theorem bind_apply (f : Flow w ε α) (g : α → Flow w ε β) (s : w) :
    (f >>= g) s =
      match f s with
      | (.ok a, t) => g a t
      | (.error e, t) => (.error e, t) := rfl

theorem bind_ok {f : Flow w ε α} {g : α → Flow w ε β} {s t : w} {a : α} (hf : f s = (.ok a, t)) :
    (f >>= g) s = g a t := by
  rw [bind_apply, hf]

theorem bind_error {f : Flow w ε α} {g : α → Flow w ε β} {s t : w} {e : Failure ε}
    (hf : f s = (.error e, t)) : (f >>= g) s = (.error e, t) := by
  rw [bind_apply, hf]

/-- Fails with a fault. -/
def fail (e : ε) : Flow w ε α := fun s => (.error (.fault e), s)

/-- Fails with something else. -/
def escape (e : Escape) : Flow w ε α := fun s => (.error (.escape e), s)

/-- The state. -/
def state : Flow w ε w := fun s => (.ok s, s)

/-- Changes the state. -/
def change (f : w → w) : Flow w ε Unit := fun s => (.ok (), f s)

/-- A result or failure that does not depend on the state. -/
def ofExcept (r : Except (Failure ε) α) : Flow w ε α := fun s => (r, s)

@[simp] theorem fail_apply (e : ε) (s : w) :
    (fail e : Flow w ε α) s = (.error (.fault e), s) := rfl

@[simp] theorem escape_apply (e : Escape) (s : w) :
    (escape e : Flow w ε α) s = (.error (.escape e), s) := rfl

@[simp] theorem state_apply (s : w) : (state : Flow w ε w) s = (.ok s, s) := rfl

@[simp] theorem change_apply (f : w → w) (s : w) :
    (change f : Flow w ε Unit) s = (.ok (), f s) := rfl

@[simp] theorem ofExcept_apply (r : Except (Failure ε) α) (s : w) :
    (ofExcept r : Flow w ε α) s = (r, s) := rfl

/-- Goes on after a fault. -/
def handle (f : Flow w ε α) (g : ε → Flow w δ α) : Flow w δ α := fun s =>
  match f s with
  | (.ok a, t) => (.ok a, t)
  | (.error (.fault e), t) => g e t
  | (.error (.escape e), t) => (.error (.escape e), t)

/-- The flow with its fault seen as another. -/
def mapFault (g : ε → δ) (f : Flow w ε α) : Flow w δ α :=
  f.handle fun e => fail (g e)

theorem mapFault_apply (g : ε → δ) (f : Flow w ε α) (s : w) :
    f.mapFault g s = ((f s).1.mapError (Failure.map g), (f s).2) := by
  unfold mapFault handle
  split <;> rename_i hf <;> rw [hf] <;> rfl

/-! ## Holding something -/

/-- A flow on the world, run by one who holds something. -/
def beside (f : Flow w ε α) : Flow (h × w) ε α := fun s =>
  ((f s.2).1, (s.1, (f s.2).2))

@[simp] theorem beside_apply (f : Flow w ε α) (s : h × w) :
    (f.beside : Flow (h × w) ε α) s = ((f s.2).1, (s.1, (f s.2).2)) := rfl

/-- What is held. -/
def held : Flow (h × w) ε h := fun s => (.ok s.1, s)

/-- Holds something else instead. -/
def hold (x : h) : Flow (h × w) ε Unit := fun s => (.ok (), (x, s.2))

@[simp] theorem held_apply (s : h × w) : (held : Flow (h × w) ε h) s = (.ok s.1, s) := rfl

@[simp] theorem hold_apply (x : h) (s : h × w) :
    (hold x : Flow (h × w) ε Unit) s = (.ok (), (x, s.2)) := rfl

/-- A flow of one who holds a part of what is held; `whole` tells what has which part. -/
def within (whole : p → h) (x : p) (f : Flow (p × w) ε α) : Flow (h × w) ε α := fun s =>
  ((f (x, s.2)).1, (whole (f (x, s.2)).2.1, (f (x, s.2)).2.2))

@[simp] theorem within_apply (whole : p → h) (x : p) (f : Flow (p × w) ε α) (s : h × w) :
    f.within whole x s = ((f (x, s.2)).1, (whole (f (x, s.2)).2.1, (f (x, s.2)).2.2)) := rfl

end Flow

end Bearer
