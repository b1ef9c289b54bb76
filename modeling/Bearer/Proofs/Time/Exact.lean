import Bearer.Time.Clock
import Mathlib.Data.Rat.Floor
import Mathlib.Tactic.Linarith
import Mathlib.Tactic.NormNum
import Mathlib.Tactic.Ring

/-!
# Exact readings of a clock

A reading may be any rational number of seconds. Adding a length to it and comparing two of them is
then exact, and only the time between two readings is rounded, to the nearest microsecond, half way
to the even one, as a binary64 number of seconds is. Rounding keeps the order of lengths and leaves
whole numbers alone; lengths that are rounded one by one need not add up.

* `nearestEven_eq_iff`: which whole number is the nearest.
* `nearestEven_value`: binary fractions are rounded in the same way.
* `nearestEven_mono`, `nearestEven_intCast`: what rounding keeps.
* `microsBetween_mono`, `microsBetween_nonneg`: the time that passes as the clock goes on.
-/
namespace Bearer.Time

/-! ## Rounding -/

/-- The nearest whole number, the even one of two. -/
def nearestEven (x : ℚ) : ℤ :=
  if 2 * (x - ⌊x⌋) < 1 then ⌊x⌋ else if 1 < 2 * (x - ⌊x⌋) then ⌊x⌋ + 1 else ⌊x⌋ + ⌊x⌋ % 2

/-- A whole number is at most one half away from `x`, and even if it is as far as that. -/
structure IsNearest (x : ℚ) (n : ℤ) : Prop where
  lower : 2 * (n : ℚ) - 1 ≤ 2 * x
  upper : 2 * x ≤ 2 * n + 1
  even : n % 2 = 0 ∨ 2 * (n : ℚ) - 1 < 2 * x ∧ 2 * x < 2 * n + 1

variable {x y : ℚ} {m n : ℤ}

theorem IsNearest.neg (h : IsNearest x n) : IsNearest (-x) (-n) where
  lower := by push_cast; linarith [h.upper]
  upper := by push_cast; linarith [h.lower]
  even := by
    refine h.even.imp (fun heven => by omega) fun ⟨hlower, hupper⟩ => ?_
    push_cast
    constructor <;> linarith

/-- Two numbers that are nearest to the same are equal: they could only be neighbours, and then one
of them would be odd. -/
theorem IsNearest.unique (hm : IsNearest x m) (hn : IsNearest x n) : m = n := by
  have hle : m ≤ n + 1 := by
    have : (m : ℚ) ≤ n + 1 := by linarith [hm.lower, hn.upper]
    exact_mod_cast this
  have hge : n ≤ m + 1 := by
    have : (n : ℚ) ≤ m + 1 := by linarith [hn.lower, hm.upper]
    exact_mod_cast this
  rcases (by omega : m = n ∨ m = n + 1 ∨ n = m + 1) with hmn | rfl | rfl
  · exact hmn
  · have hlower := hm.lower
    have heven := hm.even
    push_cast at hlower heven
    rcases heven with hm | hm
    · rcases hn.even with hn | hn
      · omega
      · linarith [hn.2]
    · linarith [hm.1, hn.upper]
  · have hlower := hn.lower
    have heven := hn.even
    push_cast at hlower heven
    rcases heven with hn | hn
    · rcases hm.even with hm | hm
      · omega
      · linarith [hm.2]
    · linarith [hn.1, hm.upper]

theorem isNearest_nearestEven (x : ℚ) : IsNearest x (nearestEven x) := by
  have hle := Int.floor_le x
  have hlt := Int.lt_floor_add_one x
  unfold nearestEven
  split
  · exact ⟨by linarith, by linarith, .inr ⟨by linarith, by linarith⟩⟩
  · split
    · constructor <;> push_cast
      · linarith
      · linarith
      · exact .inr ⟨by linarith, by linarith⟩
    · -- half way between two whole numbers
      rcases Int.emod_two_eq_zero_or_one ⌊x⌋ with heven | hodd
      · rw [heven, add_zero]
        exact ⟨by linarith, by linarith, .inl heven⟩
      · rw [hodd]
        constructor <;> push_cast
        · linarith
        · linarith
        · exact .inl (by omega)

theorem nearestEven_eq_iff : nearestEven x = n ↔ IsNearest x n :=
  ⟨fun h => h ▸ isNearest_nearestEven x, fun h => (isNearest_nearestEven x).unique h⟩

theorem nearestEven_neg (x : ℚ) : nearestEven (-x) = -nearestEven x :=
  nearestEven_eq_iff.2 (isNearest_nearestEven x).neg

theorem nearestEven_intCast (n : ℤ) : nearestEven n = n :=
  nearestEven_eq_iff.2 ⟨by linarith, by linarith, .inr ⟨by linarith, by linarith⟩⟩

theorem nearestEven_mono (h : x ≤ y) : nearestEven x ≤ nearestEven y := by
  rcases h.eq_or_lt with rfl | hlt
  · exact le_refl _
  · have hlower := (isNearest_nearestEven x).lower
    have hupper := (isNearest_nearestEven y).upper
    have : (nearestEven x : ℚ) < nearestEven y + 1 := by linarith
    exact Int.lt_add_one_iff.1 (by exact_mod_cast this)

/-- The nearest whole number to a quotient, by its remainder. -/
theorem nearestEven_div (n : ℕ) {d : ℕ} (hd : 0 < d) :
    nearestEven (n / d) =
      (if 2 * (n % d) < d then n / d else if d < 2 * (n % d) then n / d + 1
        else n / d + n / d % 2 : ℕ) := by
  have hd' : (0 : ℚ) < d := by exact_mod_cast hd
  have hfloor : ⌊(n / d : ℚ)⌋ = ((n / d : ℕ) : ℤ) := Rat.floor_natCast_div_natCast n d
  have hrest : (n / d : ℚ) - ((n / d : ℕ) : ℤ) = ((n % d : ℕ) : ℚ) / d := by
    rw [eq_div_iff hd'.ne', sub_mul, div_mul_cancel₀ _ hd'.ne']
    have hdiv : (d : ℚ) * (n / d : ℕ) + (n % d : ℕ) = n := by exact_mod_cast Nat.div_add_mod n d
    rw [Int.cast_natCast]
    linarith
  have hless : 2 * (((n % d : ℕ) : ℚ) / d) < 1 ↔ 2 * (n % d) < d := by
    rw [← mul_div_assoc, div_lt_one hd']
    exact_mod_cast Iff.rfl
  have hmore : 1 < 2 * (((n % d : ℕ) : ℚ) / d) ↔ d < 2 * (n % d) := by
    rw [← mul_div_assoc, one_lt_div hd']
    exact_mod_cast Iff.rfl
  unfold nearestEven
  rw [hfloor, hrest]
  simp only [hless, hmore]
  split
  · rfl
  · split <;> push_cast <;> rfl

end Bearer.Time

namespace Bearer.Number.Binary

/-- The number that a binary fraction is. -/
def value (b : Binary) : ℚ :=
  b.signed b.mantissa * 2 ^ b.exponent

theorem ratio_pos (b : Binary) : 0 < b.ratio.2 := by
  unfold ratio
  split
  · exact Nat.one_pos
  · exact Nat.two_pow_pos _

/-- Its magnitude is the quotient that it is rounded by. -/
theorem ratio_div (b : Binary) : (b.ratio.1 / b.ratio.2 : ℚ) = b.mantissa * 2 ^ b.exponent := by
  unfold ratio
  split
  · rename_i hexp
    obtain ⟨k, hk⟩ := Int.eq_ofNat_of_zero_le hexp
    simp [hk]
  · rename_i hexp
    obtain ⟨k, hk⟩ := Int.eq_ofNat_of_zero_le (by omega : 0 ≤ -b.exponent)
    have : b.exponent = -(k : ℤ) := by omega
    simp [this, div_eq_mul_inv]

/-- A binary fraction is rounded to the nearest whole number, the even one of two. -/
theorem nearestEven_value (b : Binary) : b.nearestEven = Time.nearestEven b.value := by
  have hdiv := Time.nearestEven_div b.ratio.1 b.ratio_pos
  rw [ratio_div] at hdiv
  unfold value nearestEven signed
  cases b.negative with
  | false => simpa using hdiv.symm
  | true =>
    simp only [if_true, Int.cast_neg, Int.cast_natCast, neg_mul, Time.nearestEven_neg, hdiv]

end Bearer.Number.Binary

namespace Bearer.Time

/-! ## Readings -/

/-- The time between two readings, to the nearest microsecond. -/
def microsBetween (later earlier : ℚ) : ℤ :=
  nearestEven ((later - earlier) * perSecond)

/-- Readings as rational numbers. -/
instance : Clock ℚ where
  ofSpan s := s.micros / perSecond
  add a b := a + b
  isLater a b := b < a
  since? a b := Span.ofMicros? (microsBetween a b)
  text := toString

/-- The later the reading, the more time has passed. -/
theorem microsBetween_mono {now later : ℚ} (h : now ≤ later) (since : ℚ) :
    microsBetween now since ≤ microsBetween later since := by
  have hpos : (0 : ℚ) ≤ (perSecond : ℤ) := by norm_num
  exact nearestEven_mono (mul_le_mul_of_nonneg_right (sub_le_sub_right h since) hpos)

theorem microsBetween_self (now : ℚ) : microsBetween now now = 0 := by
  rw [microsBetween, sub_self, zero_mul]
  exact nearestEven_intCast 0

theorem microsBetween_nonneg {now since : ℚ} (h : since ≤ now) : 0 ≤ microsBetween now since :=
  microsBetween_self since ▸ microsBetween_mono h since

end Bearer.Time
