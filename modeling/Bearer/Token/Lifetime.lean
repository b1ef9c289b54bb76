import Bearer.Time.Clock

/-!
# Lifetimes

A token is good for a span of time from the moment it was assembled or last refreshed, or for a time
that is not known. What remains of the span is never below zero. The time that passed and what
remains may leave the range of spans; then nothing can be said.

* `remaining?_nonneg`: what remains is never below zero.
-/
namespace Bearer

/-- How long a token is good for. -/
structure Lifetime (τ : Type) where
  /-- The span, if it is known. -/
  span : Option Time.Span
  /-- The reading of the clock from which it counts. -/
  since : τ
deriving DecidableEq

namespace Lifetime

open Time (Span Clock)

variable {τ : Type} [Clock τ]

/-- What remains of a span after another has passed. -/
def left? (span passed : Span) : Option Span :=
  (span.sub? passed).map fun rest => rest.max .zero

/-- What remains of the lifetime when the clock reads `now`; the outer level is absent if that
leaves the range of spans, the inner one if the lifetime is not known. -/
def remaining? (l : Lifetime τ) (now : τ) : Option (Option Span) :=
  match l.span with
  | none => some none
  | some span => (Clock.since? now l.since).bind fun passed => (left? span passed).map some

/-- Whether what remains is nothing. -/
def isOver : Option Span → Bool
  | some rest => rest.micros ≤ 0
  | none => false

theorem micros_max_zero (s : Span) : (s.max .zero).micros = max s.micros 0 := by
  have hz : Span.zero.micros = 0 := rfl
  unfold Span.max
  split <;> omega

theorem remaining?_nonneg {l : Lifetime τ} {now : τ} {rest : Span}
    (h : l.remaining? now = some (some rest)) : 0 ≤ rest.micros := by
  unfold remaining? at h
  split at h
  · simp at h
  · obtain ⟨passed, -, h⟩ := Option.bind_eq_some_iff.1 h
    obtain ⟨r, h, he⟩ := Option.map_eq_some_iff.1 h
    cases he
    obtain ⟨d, -, rfl⟩ := Option.map_eq_some_iff.1 h
    rw [micros_max_zero]
    omega

end Lifetime

end Bearer
