/-!
# Decimal numbers as text

An unsigned decimal number is digits, perhaps with a point, perhaps with a power of ten behind an
`e`. `Decimal.scan?` reads one from a whole text, `Decimal.toFloat` gives the nearest binary64
number. A text of a number may also be spelled `inf`, `infinity` or `nan` in any case, with a sign
in front: `float?` reads all of them.

* `ofDigits_toDigits`, `eq_zero_of_toDigits`: a natural number written in decimal is read back, and
  has no zero in front.
-/
namespace Bearer.Number

/-- Whether a character is one of the ten ASCII digits. -/
def isDigit (c : Char) : Bool :=
  48 ≤ c.toNat && c.toNat ≤ 57

/-- The value of a digit character. -/
def digitValue (c : Char) : Nat :=
  c.toNat - 48

/-- The number that a row of digits stands for. -/
def ofDigits (ds : List Char) : Nat :=
  ds.foldl (fun n c => 10 * n + digitValue c) 0

theorem isDigit_toDigits {n : Nat} {c : Char} (h : c ∈ Nat.toDigits 10 n) : isDigit c = true := by
  have hc := Nat.isDigit_of_mem_toDigits (by decide) (by decide) h
  simp only [Char.isDigit, ge_iff_le, Bool.and_eq_true, decide_eq_true_eq] at hc
  simp only [isDigit, Bool.and_eq_true, decide_eq_true_eq]
  exact hc

@[simp] theorem ofDigits_toDigits (n : Nat) : ofDigits (Nat.toDigits 10 n) = n :=
  Nat.ofDigitChars_ten_toDigits

/-- Only zero is written with a zero in front. -/
theorem eq_zero_of_toDigits {n : Nat} {ds : List Char} (h : Nat.toDigits 10 n = '0' :: ds) :
    n = 0 := by
  induction n using Nat.strongRecOn generalizing ds with
  | ind n ih =>
    rw [Nat.toDigits_eq_if (by decide)] at h
    split at h
    · rename_i hn
      have hzero : ∀ n < 10, Nat.digitChar n = '0' → n = 0 := by decide
      exact hzero n hn (List.cons.inj h).1
    · rename_i hn
      cases hds : Nat.toDigits 10 (n / 10) with
      | nil => exact absurd hds Nat.toDigits_ne_nil
      | cons d rest =>
        rw [hds] at h
        have := ih (n / 10) (by omega) ((List.cons.inj h).1 ▸ hds)
        omega

/-- The number that a text of one or more digits stands for. -/
def digits? (s : List Char) : Option Nat :=
  if s.isEmpty || !s.all isDigit then none else some (ofDigits s)

/-- A whole number that may carry a sign. -/
def integer? : List Char → Option Int
  | '-' :: s => (digits? s).map fun n => -(n : Int)
  | '+' :: s => (digits? s).map fun n => (n : Int)
  | s => (digits? s).map fun n => (n : Int)

/-- The number `mantissa · 10 ^ exponent`. -/
structure Decimal where
  /-- The digits, read as one number. -/
  mantissa : Nat
  /-- The power of ten. -/
  exponent : Int
deriving DecidableEq, Repr

namespace Decimal

/-- The nearest binary64 number. Past 310 places before the point or 350 behind it every number
is infinite or zero, so powers of ten beyond are not computed. -/
def toFloat (d : Decimal) : Float :=
  let places : Int := (Nat.toDigits 10 d.mantissa).length
  if d.mantissa = 0 then 0.0
  else if 310 < places + d.exponent then 1.0 / 0.0
  else if places + d.exponent < -350 then 0.0
  else if 0 ≤ d.exponent then Float.ofScientific (d.mantissa * Nat.pow 10 d.exponent.toNat) true 0
  else Float.ofScientific d.mantissa true (-d.exponent).toNat

/-- The digits before the point, those behind it, whether there is a point, and what follows. -/
structure Places where
  /-- The digits before the point. -/
  whole : List Char
  /-- The digits behind the point. -/
  fraction : List Char
  /-- Whether there is a point. -/
  hasPoint : Bool
  /-- What follows the digits. -/
  rest : List Char

/-- Cuts the digits of a number off a text. -/
def places (s : List Char) : Places :=
  match s.dropWhile isDigit with
  | '.' :: t => ⟨s.takeWhile isDigit, t.takeWhile isDigit, true, t.dropWhile isDigit⟩
  | t => ⟨s.takeWhile isDigit, [], false, t⟩

/-- The power of ten behind the digits. -/
def exponent? : List Char → Option Int
  | [] => some 0
  | 'e' :: s => integer? s
  | 'E' :: s => integer? s
  | _ => none

/-- Reads an unsigned decimal number: digits on at least one side of the point. -/
def scan? (s : List Char) : Option Decimal :=
  let p := places s
  if p.whole.isEmpty && p.fraction.isEmpty then none
  else (exponent? p.rest).map fun e =>
    ⟨ofDigits (p.whole ++ p.fraction), e - (p.fraction.length : Int)⟩

end Decimal

/-- The float that an unsigned text stands for. -/
def unsignedFloat? (s : List Char) : Option Float :=
  let name := s.map Char.toLower
  if name = ['i', 'n', 'f'] || name = ['i', 'n', 'f', 'i', 'n', 'i', 't', 'y'] then
    some (1.0 / 0.0)
  else if name = ['n', 'a', 'n'] then some (0.0 / 0.0)
  else (Decimal.scan? s).map Decimal.toFloat

/-- The float that a text stands for. -/
def float? : List Char → Option Float
  | '-' :: s => (unsignedFloat? s).map fun x => -x
  | '+' :: s => unsignedFloat? s
  | s => unsignedFloat? s

end Bearer.Number
