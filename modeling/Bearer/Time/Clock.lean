import Bearer.Time.Span
import Bearer.Number.Shortest

/-!
# Clocks

What the flows need of a clock's readings: adding a length to a reading, telling which of two is
later, and the time between two readings to the microsecond. A reading may be a binary64 number of
seconds, whose sums are rounded, or an exact number; the flows are written for either.
-/
namespace Bearer.Time

/-- The readings of a clock, in seconds. -/
class Clock (τ : Type) where
  /-- The length of a span. -/
  ofSpan : Span → τ
  /-- A reading moved by a length. -/
  add : τ → τ → τ
  /-- `isLater a b`: whether `a` is later than `b`. -/
  isLater : τ → τ → Bool
  /-- The time from the second reading to the first, to the microsecond; absent if that is no
  span. -/
  since? : τ → τ → Option Span
  /-- A length in writing. -/
  text : τ → String

/-- Readings as binary64 numbers. -/
instance : Clock Float where
  ofSpan := Span.toFloat
  add a b := a + b
  isLater a b := b < a
  since? a b := Span.ofFloat? (a - b)
  text := Number.floatText

end Bearer.Time
