/-!
# Sets of code points

Properties of characters are given as sets of code points: closed ranges in ascending order, or rows
in which only every so many code points belong to the set, as where capitals and small letters take
turns.

* `contains_iff`: what a set of ranges holds.
-/
namespace Bearer.Text

/-- A set of code points as closed ranges. -/
abbrev Ranges := List (Nat × Nat)

/-- Whether a code point lies in one of the ranges. -/
def Ranges.contains (rs : Ranges) (n : Nat) : Bool :=
  rs.any fun r => r.1 ≤ n && n ≤ r.2

theorem Ranges.contains_iff {rs : Ranges} {n : Nat} :
    rs.contains n = true ↔ ∃ r ∈ rs, r.1 ≤ n ∧ n ≤ r.2 := by
  simp [contains]

/-- A row of code points at even distances. -/
structure Row where
  /-- The first code point. -/
  first : Nat
  /-- The last one. -/
  last : Nat
  /-- The distance from one to the next. -/
  step : Nat

/-- Whether a code point stands in a row. -/
def Row.contains (r : Row) (n : Nat) : Bool :=
  r.first ≤ n && n ≤ r.last && (n - r.first) % r.step == 0

end Bearer.Text
