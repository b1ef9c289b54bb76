/-!
# Binary fractions

A finite binary64 number is a sign, a natural mantissa and a power of two, and this module reads
those off its bits. Rounding to whole numbers is then exact integer arithmetic: `truncate` drops
the fraction, `nearestEven` goes to the nearest whole number and, half way, to the even one,
`nearestAway` goes half way to the one further from zero.

* `ofFloat?_bounds`, `length_truncate`: a whole part has at most 1024 digits.
-/
namespace Bearer.Number

/-- The number `± mantissa · 2 ^ exponent`. -/
structure Binary where
  /-- Whether the number is negative. -/
  negative : Bool
  /-- The mantissa. -/
  mantissa : Nat
  /-- The power of two. -/
  exponent : Int
deriving DecidableEq, Repr

namespace Binary

/-- The exact value of a float; absent for an infinity or a NaN. -/
def ofFloat? (x : Float) : Option Binary :=
  let bits := x.toBits.toNat
  let negative := bits / Nat.pow 2 63 == 1
  let exponent : Nat := bits / Nat.pow 2 52 % Nat.pow 2 11
  let fraction : Nat := bits % Nat.pow 2 52
  if exponent == Nat.pow 2 11 - 1 then none
  else if exponent == 0 then some ⟨negative, fraction, -1074⟩
  else some ⟨negative, Nat.pow 2 52 + fraction, (exponent : Int) - 1075⟩

/-- The magnitude as a quotient of natural numbers. -/
def ratio (b : Binary) : Nat × Nat :=
  if 0 ≤ b.exponent then (b.mantissa * Nat.pow 2 b.exponent.toNat, 1)
  else (b.mantissa, Nat.pow 2 (-b.exponent).toNat)

/-- A magnitude with the sign of the number. -/
def signed (b : Binary) (n : Nat) : Int :=
  if b.negative then -(n : Int) else n

/-- The whole part, toward zero. -/
def truncate (b : Binary) : Int :=
  b.signed (b.ratio.1 / b.ratio.2)

/-- A finite number has 53 bits, the last of which stands at most for the 971st power of two. -/
theorem ofFloat?_bounds {x : Float} {b : Binary} (h : ofFloat? x = some b) :
    b.mantissa < Nat.pow 2 53 ∧ b.exponent ≤ 971 := by
  have hfraction : x.toBits.toNat % Nat.pow 2 52 < Nat.pow 2 52 :=
    Nat.mod_lt _ (Nat.two_pow_pos 52)
  have hexponent : x.toBits.toNat / Nat.pow 2 52 % Nat.pow 2 11 < Nat.pow 2 11 :=
    Nat.mod_lt _ (Nat.two_pow_pos 11)
  simp only [ofFloat?] at h
  split at h
  · cases h
  rename_i hfinite
  split at h
  · cases h
    simp only [Nat.pow_eq] at *
    omega
  · cases h
    simp only [Nat.pow_eq, beq_iff_eq] at *
    omega

/-- The whole part of a number that is that small has no more digits. -/
theorem length_truncate {b : Binary} {m e : Nat} (hm : 0 < m)
    (hmantissa : b.mantissa < Nat.pow 2 m) (hexponent : b.exponent ≤ e) :
    (Nat.toDigits 10 b.truncate.natAbs).length ≤ m + e := by
  have hsigned (n : Nat) : (b.signed n).natAbs = n := by
    unfold signed
    split <;> omega
  have hratio : b.ratio.1 < Nat.pow 2 (m + e) := by
    unfold ratio
    split
    · calc b.mantissa * Nat.pow 2 b.exponent.toNat
          < Nat.pow 2 m * Nat.pow 2 b.exponent.toNat :=
            Nat.mul_lt_mul_of_pos_right hmantissa (Nat.two_pow_pos _)
        _ = Nat.pow 2 (m + b.exponent.toNat) := (Nat.pow_add 2 _ _).symm
        _ ≤ Nat.pow 2 (m + e) := Nat.pow_le_pow_right (by decide) (by omega)
    · exact Nat.lt_of_lt_of_le hmantissa (Nat.pow_le_pow_right (by decide) (Nat.le_add_right m e))
  rw [truncate, hsigned, Nat.length_toDigits_le_iff (by decide) (by omega)]
  calc b.ratio.1 / b.ratio.2
      ≤ b.ratio.1 := Nat.div_le_self _ _
    _ < Nat.pow 2 (m + e) := hratio
    _ ≤ Nat.pow 10 (m + e) := Nat.pow_le_pow_left (by decide) _

/-- Whether the number is whole. -/
def isWhole (b : Binary) : Bool :=
  b.ratio.1 % b.ratio.2 == 0

/-- The nearest whole number, the even one of two. -/
def nearestEven (b : Binary) : Int :=
  let (n, d) := b.ratio
  let q := n / d
  let r := n % d
  b.signed (if 2 * r < d then q else if d < 2 * r then q + 1 else q + q % 2)

/-- The nearest whole number, the one further from zero of two. -/
def nearestAway (b : Binary) : Int :=
  let (n, d) := b.ratio
  b.signed (if 2 * (n % d) < d then n / d else n / d + 1)

end Binary

end Bearer.Number
