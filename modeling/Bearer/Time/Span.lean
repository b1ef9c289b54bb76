import Bearer.Number.Binary

/-!
# Spans of time

A span is a whole number of microseconds of at most 999999999 days, in either direction. Every
operation that could leave that range is partial: it gives no span rather than a wrong one.

* `ofMicros?_eq_some_iff`: which numbers are spans.
* `parts_sum`: days, seconds and microseconds of a span add up to it; only the days are negative.
* `length_wholeSeconds`: whole seconds are not many digits.
-/
namespace Bearer.Time

/-- The microseconds in a second. -/
abbrev perSecond : Int := 1000000

/-- The microseconds in a day. -/
abbrev perDay : Int := 86400000000

/-- A length of time in microseconds. -/
structure Span where
  /-- The number of microseconds. -/
  micros : Int
  /-- A span is no less than minus 999999999 days. -/
  lower : -999999999 * perDay ≤ micros
  /-- A span is less than a thousand million days. -/
  upper : micros < 1000000000 * perDay
deriving DecidableEq

namespace Span

/-- The span of so many microseconds, if there is one. -/
def ofMicros? (n : Int) : Option Span :=
  if h : -999999999 * perDay ≤ n ∧ n < 1000000000 * perDay then some ⟨n, h.1, h.2⟩ else none

theorem ofMicros?_eq_some_iff {n : Int} {s : Span} : ofMicros? n = some s ↔ s.micros = n := by
  obtain ⟨m, hl, hu⟩ := s
  unfold ofMicros?
  split
  · simp [eq_comm]
  · rename_i h
    simp only [reduceCtorEq, false_iff]
    intro hm
    exact h (hm ▸ ⟨hl, hu⟩)

@[simp] theorem ofMicros?_micros (s : Span) : ofMicros? s.micros = some s :=
  ofMicros?_eq_some_iff.2 rfl

/-- The empty span. -/
def zero : Span := ⟨0, by decide, by decide⟩

instance : Inhabited Span := ⟨zero⟩

/-- The span of so many seconds, if there is one. -/
def ofSeconds? (n : Int) : Option Span :=
  ofMicros? (n * perSecond)

/-- The difference, if it is a span. -/
def sub? (s t : Span) : Option Span :=
  ofMicros? (s.micros - t.micros)

/-- The longer of two spans. -/
def max (s t : Span) : Span :=
  if s.micros < t.micros then t else s

/-- The whole days, rounded down. -/
def days (s : Span) : Int :=
  s.micros / perDay

/-- The whole seconds past the days. -/
def seconds (s : Span) : Int :=
  s.micros % perDay / perSecond

/-- The microseconds past the seconds. -/
def microseconds (s : Span) : Int :=
  s.micros % perSecond

theorem parts_sum (s : Span) :
    s.micros = s.days * perDay + s.seconds * perSecond + s.microseconds ∧
      0 ≤ s.seconds ∧ s.seconds < 86400 ∧ 0 ≤ s.microseconds ∧ s.microseconds < perSecond := by
  simp only [days, seconds, microseconds, perDay, perSecond]
  omega

/-- The length in seconds, as the nearest binary64 number. -/
def toFloat (s : Span) : Float :=
  let x := Float.ofScientific s.micros.natAbs true 6
  if s.micros < 0 then -x else x

/-- The length in whole seconds, toward zero, as its binary64 number of seconds has them. -/
def wholeSeconds (s : Span) : Int :=
  match Number.Binary.ofFloat? s.toFloat with
  | some b => b.truncate
  | none => 0

theorem length_wholeSeconds (s : Span) :
    (Nat.toDigits 10 s.wholeSeconds.natAbs).length ≤ 1024 := by
  unfold wholeSeconds
  split
  · rename_i b hb
    obtain ⟨hmantissa, hexponent⟩ := Number.Binary.ofFloat?_bounds hb
    exact Number.Binary.length_truncate (by decide) hmantissa hexponent
  · decide

/-- The span of a binary64 number of seconds, to the nearest microsecond, half way to the even
one. The fraction is taken off before it is scaled, so that large numbers keep their precision. -/
def ofFloat? (x : Float) : Option Span := do
  let whole ← (Number.Binary.ofFloat? x).map (·.truncate)
  let fraction := x - (if x < 0.0 then x.ceil else x.floor)
  let rest ← (Number.Binary.ofFloat? (fraction * 1000000.0)).map (·.nearestEven)
  ofMicros? (whole * perSecond + rest)

/-- The span in writing: its parts by name, those that are zero left out. -/
def describe (s : Span) : String :=
  let part := fun (name : String) (n : Int) => if n = 0 then [] else [name ++ "=" ++ toString n]
  let parts := part "days" s.days ++ part "seconds" s.seconds ++
    part "microseconds" s.microseconds
  "datetime.timedelta(" ++ (if parts.isEmpty then "0" else ", ".intercalate parts) ++ ")"

end Span

end Bearer.Time
