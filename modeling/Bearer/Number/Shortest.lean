import Bearer.Number.Binary

/-!
# The shortest decimal text of a float

A float is written with the fewest digits that read back to it; of several such decimals, the
nearest, and of two equally near ones the one whose last digit is even. The decimals with `n` digits
form a grid, and if any point of the grid reads back, so does one of the two points next to the
float, so `shortest` looks at those two for one digit, two digits, and so on. Everything is compared
exactly, in natural numbers.

The text is positional from `0.0001` up to, not including, ten to the sixteenth, and always shows
a point; other floats are written with one digit before the point and a power of ten of at least
two digits.
-/
namespace Bearer.Number

/-- The decimal `digits · 10 ^ exponent`. -/
structure Shortest where
  /-- The digits, read as one number. -/
  digits : Nat
  /-- The power of ten of the last digit. -/
  exponent : Int
deriving DecidableEq, Repr

/-- The number of decimal digits of a natural number. -/
def digitCount (n : Nat) : Nat :=
  (Nat.toDigits 10 n).length

namespace Binary

/-- How many decimal places stand before the point; zero or negative for a fraction that starts
with zeros. -/
def decimalPlaces (b : Binary) : Int :=
  let (n, d) := b.ratio
  if d ≤ n then digitCount (n / d) else 1 - (digitCount (d / n) : Int)

/-- The decimal on the grid of `10 ^ e` that reads back to the magnitude of `b`, the nearer one if
both neighbours do, and the even one if both are as near. The reals that read back reach half a unit
of the last place to both sides, but only a quarter below a power of two; the ends belong to them
iff the mantissa is even. -/
def onGrid? (b : Binary) (e : Int) : Option Shortest :=
  let grid := Nat.pow 10 e.toNat * Nat.pow 2 (2 - b.exponent).toNat
  let unit := Nat.pow 10 (-e).toNat * Nat.pow 2 (b.exponent - 2).toNat
  let value := 4 * b.mantissa * unit
  let below := if b.mantissa = Nat.pow 2 52 && -1074 < b.exponent then 1 else 2
  let low := (4 * b.mantissa - below) * unit
  let high := (4 * b.mantissa + 2) * unit
  let inside := fun x => if b.mantissa % 2 = 0 then low ≤ x && x ≤ high else low < x && x < high
  let d := value / grid
  let down := inside (d * grid)
  let up := inside ((d + 1) * grid)
  let past := 2 * (value - d * grid)
  let nearer := past < grid || (past = grid && d % 2 = 0)
  if down && (!up || nearer) then some ⟨d, e⟩
  else if up then some ⟨d + 1, e⟩
  else none

/-- The shortest decimal that reads back to the magnitude of `b`. Seventeen digits always do. -/
def shortest (b : Binary) : Shortest :=
  let places := b.decimalPlaces
  ((List.range 17).findSome? fun n => b.onGrid? (places - (n + 1 : Nat))).getD ⟨0, 0⟩

end Binary

/-- The digits of a decimal without the zeros at the end, and the place of the point counted from
the first of them. -/
def Shortest.placed (s : Shortest) : List Char × Int :=
  let ds := Nat.toDigits 10 s.digits
  ((ds.reverse.dropWhile (· == '0')).reverse, ds.length + s.exponent)

/-- The exponent of a float's text: a sign and at least two digits. -/
def exponentText (e : Int) : List Char :=
  let ds := Nat.toDigits 10 e.natAbs
  'e' :: (if e < 0 then '-' else '+') :: (if ds.length < 2 then '0' :: ds else ds)

/-- The text of a positive finite float. -/
def magnitudeText (b : Binary) : List Char :=
  if b.mantissa = 0 then ['0', '.', '0'] else
  let (ds, point) := b.shortest.placed
  let width : Int := ds.length
  if -4 < point && point ≤ 16 then
    if point ≤ 0 then '0' :: '.' :: List.replicate (-point).toNat '0' ++ ds
    else if width ≤ point then ds ++ List.replicate (point - width).toNat '0' ++ ['.', '0']
    else ds.take point.toNat ++ '.' :: ds.drop point.toNat
  else
    (match ds with
      | [] => []
      | [d] => [d]
      | d :: rest => d :: '.' :: rest) ++ exponentText (point - 1)

/-- The text of a float. -/
def floatText (x : Float) : String :=
  match Binary.ofFloat? x with
  | some b => String.ofList ((if b.negative then ['-'] else []) ++ magnitudeText b)
  | none => if x.isNaN then "nan" else if x < 0.0 then "-inf" else "inf"

end Bearer.Number
