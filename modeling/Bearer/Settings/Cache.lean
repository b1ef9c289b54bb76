import Bearer.Json.Equality
import Bearer.Settings.Load

/-!
# Settings loaded once

Settings that have been loaded are kept by the values the caller gave, and given out again for the
same values in the same order; numbers and booleans are the same values if they are equal as
numbers. At most 128 are kept: the one not used for longest goes first. Each settings object
loaded has a number of its own, so that giving out an old one can be told from loading anew.

* `length_get_le`: no more are kept than there is room for.
-/
namespace Bearer.Settings

/-- The most settings that are kept. -/
def capacity : Nat := 128

/-- Settings that are kept. -/
structure Cached where
  /-- The values they were loaded with. -/
  given : List (String × Json)
  /-- Their number. -/
  serial : Nat
  /-- The settings. -/
  settings : Settings

/-- The settings kept, the one used last in front, and the number of the next. -/
structure Cache where
  /-- What is kept. -/
  entries : List Cached := []
  /-- The number of the next settings loaded. -/
  next : Nat := 0

/-- Whether two rows of given values are the same. -/
def sameGiven : List (String × Json) → List (String × Json) → Bool
  | [], [] => true
  | (k, v) :: xs, (l, w) :: ys => k == l && v.isSame w && sameGiven xs ys
  | _, _ => false

/-- Why no settings were given out. -/
inductive CacheFault where
  /-- A value of this kind cannot be part of a key. -/
  | notKeyable (kind : String)
  /-- The settings have problems. -/
  | problems (ps : List Payload.Problem)

namespace Cache

/-- Forgets all settings. -/
def clear (c : Cache) : Cache := { c with entries := [] }

/-- The settings for the given values, out of the cache or loaded anew. -/
def get (c : Cache) (src : Sources) : Except CacheFault (Cached × Cache) :=
  match src.given.find? fun f => !f.2.isKeyable with
  | some f => .error (.notKeyable f.2.kind)
  | none =>
    match c.entries.find? fun e => sameGiven e.given src.given with
    | some e =>
      let rest := c.entries.filter fun e' => e'.serial != e.serial
      .ok (e, { c with entries := (e :: rest).take capacity })
    | none =>
      match load src with
      | .error ps => .error (.problems ps)
      | .ok s =>
        let e : Cached := ⟨src.given, c.next, s⟩
        .ok (e, ⟨(e :: c.entries).take capacity, c.next + 1⟩)

theorem length_get_le {c c' : Cache} {src : Sources} {e : Cached}
    (h : c.get src = .ok (e, c')) : c'.entries.length ≤ capacity := by
  unfold get at h
  split at h
  · cases h
  · split at h
    · cases h
      simp only [List.length_take]
      exact Nat.min_le_left _ _
    · split at h <;> cases h
      simp only [List.length_take]
      exact Nat.min_le_left _ _

end Cache

end Bearer.Settings
