import Bearer.Number.Decimal
import Bearer.Time.Span

/-!
# Durations as text and as numbers

A span may arrive as text in three forms, each with a sign in front if need be:

* by units: `P`, then numbers with `Y`, `M`, `W` or `D` (a year has 365 and a month 30 days), then
  after a `T` numbers with `H`, `M` or `S`; the last number may have a fraction;
* by the clock: hours, minutes, and perhaps seconds with up to six decimal places;
* by days: a number, the word `day`, `days` or `d`, and perhaps a clock time.

It may also arrive as a number of seconds. Amounts are held in 32 bits, and one that does not fit
is refused, and so is one of more than 999999999 whole days. All readers give the unsigned amount;
`Duration.signed?` applies the sign. Spans reach less far back than forward, so an amount that is
read may be no span.

* `signed?_isBounded`: how large an amount with its sign may be.
-/
namespace Bearer.Time

/-- An amount of time before its parts are brought into range. -/
structure Duration where
  /-- Days. -/
  days : Nat := 0
  /-- Seconds. -/
  seconds : Nat := 0
  /-- Microseconds. -/
  micros : Nat := 0
deriving DecidableEq, Repr

namespace Duration

/-- The largest amount of a part. -/
def limit : Nat := Nat.pow 2 32 - 1

/-- The sum of two amounts, if each part stays within the limit. -/
def add? (a b : Duration) : Option Duration :=
  let c : Duration := ⟨a.days + b.days, a.seconds + b.seconds, a.micros + b.micros⟩
  if c.days ≤ limit && c.seconds ≤ limit && c.micros ≤ limit then some c else none

/-- The microseconds of the amount with the given sign; at most 999999999 whole days. -/
def signed? (d : Duration) (negative : Bool) : Option Int :=
  let seconds := d.seconds + d.micros / 1000000
  let days := d.days + seconds / 86400
  let n : Int := ((days * 86400 + seconds % 86400) * 1000000 + d.micros % 1000000 : Nat)
  if 999999999 < days then none else some (if negative then -n else n)

theorem signed?_isBounded {d : Duration} {negative : Bool} {n : Int}
    (h : d.signed? negative = some n) : -1000000000 * perDay < n ∧ n < 1000000000 * perDay := by
  simp only [signed?, Option.ite_none_left_eq_some, Option.some.injEq] at h
  obtain ⟨h, rfl⟩ := h
  unfold perDay
  cases negative <;> simp only [Bool.false_eq_true, if_false, if_true] <;> omega

/-- The whole part of a float that is not negative, at most the limit; zero if it is no number. -/
def clamp (x : Float) : Nat :=
  match Number.Binary.ofFloat? x with
  | some b => min b.truncate.toNat limit
  | none => if x.isNaN then 0 else limit

/-- The fraction of a second in microseconds, half way up. -/
def microsOf (fraction : Float) : Nat :=
  match Number.Binary.ofFloat? (fraction * 1000000.0) with
  | some b => b.nearestAway.toNat
  | none => 0

/-- The amount of so many seconds. -/
def ofFloat (x : Float) : Duration :=
  let whole := match Number.Binary.ofFloat? x with
    | some b => b.truncate.toNat
    | none => 0
  ⟨clamp (x / 86400.0), whole % 86400, microsOf (x - x.floor)⟩

/-- A number cut off the front of a text: its value and, if there is a point or a comma, its
fraction. -/
structure Amount where
  /-- The whole part. -/
  whole : Nat
  /-- The fraction, if one is written. -/
  fraction : Option Float
  /-- What follows. -/
  rest : List Char

/-- The fraction that the digits behind a point stand for. With more than 308 digits the power of
ten below is infinite, and the fraction zero or no number. -/
def fractionOf (ds : List Char) : Float :=
  let step := fun (x : Float × Float) (d : Char) =>
    (x.1 * 10.0 + Float.ofNat (Number.digitValue d), x.2 * 10.0)
  let (n, d) := ds.foldl step (0.0, 1.0)
  n / d

/-- A number whose whole part has been cut off, the fraction cut off too if there is one. -/
def Amount.behind (whole : Nat) : List Char → Amount
  | [] => ⟨whole, none, []⟩
  | c :: t =>
    if c = '.' || c = ',' then
      ⟨whole, some (fractionOf (t.takeWhile Number.isDigit)), t.dropWhile Number.isDigit⟩
    else ⟨whole, none, c :: t⟩

theorem Amount.length_behind_le (whole : Nat) (s : List Char) :
    (Amount.behind whole s).rest.length ≤ s.length := by
  cases s with
  | nil => simp [behind]
  | cons c t =>
    by_cases h : (c = '.' || c = ',') = true
    · simp only [behind, if_pos h]
      exact Nat.le_succ_of_le (List.dropWhile_sublist Number.isDigit).length_le
    · simp only [behind, if_neg h, Nat.le_refl]

/-- Cuts a number off the front of a text; it must start with a digit and fit the limit. -/
def amount? : List Char → Option Amount
  | [] => none
  | c :: s =>
    if Number.isDigit c then
      let whole := Number.ofDigits (c :: s.takeWhile Number.isDigit)
      if limit < whole then none else some (.behind whole (s.dropWhile Number.isDigit))
    else none

theorem length_amount?_lt {s : List Char} {a : Amount} (h : amount? s = some a) :
    a.rest.length < s.length := by
  cases s with
  | nil => simp [amount?] at h
  | cons c s =>
    simp only [amount?, Option.ite_none_right_eq_some, Option.ite_none_left_eq_some,
      Option.some.injEq] at h
    obtain ⟨-, -, rfl⟩ := h
    exact Nat.lt_succ_of_le (Nat.le_trans (Amount.length_behind_le _ _)
      (List.dropWhile_sublist Number.isDigit).length_le)

/-- The amount of a number of a unit of so many days. -/
def ofDays? (whole : Nat) (fraction : Option Float) (unit : Nat) : Option Duration :=
  let base : Duration := ⟨whole * unit, 0, 0⟩
  match fraction with
  | none => base.add? {}
  | some x =>
    let days := x * Float.ofNat unit
    let seconds := (days - days.floor) * 86400.0
    base.add? ⟨clamp days, clamp seconds, microsOf (seconds - seconds.floor)⟩

/-- The amount of a number of a unit of so many seconds. -/
def ofTime? (whole : Nat) (fraction : Option Float) (unit : Nat) : Option Duration :=
  let base : Duration := ⟨0, whole * unit, 0⟩
  match fraction with
  | none => base.add? {}
  | some x =>
    let seconds := x * Float.ofNat unit
    base.add? ⟨0, clamp seconds, microsOf (seconds - seconds.floor)⟩

/-- The days of a unit before the `T`. -/
def dayUnit? : Char → Option Nat
  | 'Y' => some 365
  | 'M' => some 30
  | 'W' => some 7
  | 'D' => some 1
  | _ => none

/-- The seconds of a unit after the `T`. -/
def timeUnit? : Char → Option Nat
  | 'H' => some 3600
  | 'M' => some 60
  | 'S' => some 1
  | _ => none

/-- Reads the numbers and units behind the `P`. `inTime`: the `T` has been read; `closed`: a
fraction has been read, so no number may follow. -/
def units? (total : Duration) (inTime closed : Bool) (s : List Char) : Option Duration :=
  match s with
  | [] => some total
  | c :: t =>
    if c = 'T' then if inTime then none else units? total true closed t
    else
      match _h : amount? (c :: t) with
      | none => none
      | some ⟨whole, fraction, rest⟩ =>
        if closed then none else
        match rest with
        | [] => none
        | u :: rest' =>
          let part := if inTime then (timeUnit? u).bind (ofTime? whole fraction)
            else (dayUnit? u).bind (ofDays? whole fraction)
          match part.bind total.add? with
          | none => none
          | some total => units? total inTime fraction.isSome rest'
termination_by s.length
decreasing_by
  · simp
  · have := length_amount?_lt _h
    simp at this ⊢
    omega

/-- Two digits that give a number below sixty. -/
def sixty? (tens ones : Char) : Option Nat :=
  let n := 10 * Number.digitValue tens + Number.digitValue ones
  if Number.isDigit tens && Number.isDigit ones && n < 60 then some n else none

/-- The microseconds that one to six digits behind the point stand for. -/
def microDigits? (ds : List Char) : Option Nat :=
  if ds.length ≤ 6 then (Number.digits? ds).map (· * Nat.pow 10 (6 - ds.length)) else none

/-- Minutes, and perhaps seconds with a fraction. -/
def minutes? : List Char → Option Duration
  | [a, b] => (sixty? a b).map fun m => ⟨0, 60 * m, 0⟩
  | [a, b, ':', c, d] => do
    let m ← sixty? a b
    let s ← sixty? c d
    some ⟨0, 60 * m + s, 0⟩
  | a :: b :: ':' :: c :: d :: p :: ds => do
    let m ← sixty? a b
    let s ← sixty? c d
    if p = '.' || p = ',' then (microDigits? ds).map fun n => ⟨0, 60 * m + s, n⟩ else none
  | _ => none

/-- A clock time. What stands past the sixth place of the seconds is dropped unread. -/
def clock? (s : List Char) : Option Duration :=
  let hs := s.takeWhile (· != ':')
  match s.dropWhile (· != ':') with
  | [] => none
  | _ :: t =>
    let h := Number.ofDigits hs
    if s.length < 5 || !hs.all Number.isDigit || 2400000000 < h then none
    else (minutes? (t.take 12)).map fun d => ⟨h / 24, d.seconds + h % 24 * 3600, d.micros⟩

/-- Drops the given letters, in either case, off the front of a text. -/
def dropLetters? : List Char → List Char → Option (List Char)
  | [], s => some s
  | c :: cs, d :: s => if d.toLower = c then dropLetters? cs s else none
  | _ :: _, [] => none

/-- What follows the word for days: `d`, `day` or `days`. -/
def dropDayWord? (s : List Char) : Option (List Char) := do
  let s ← dropLetters? ['d'] s
  match s with
  | c :: _ =>
    if c.toLower = 'a' then do
      let s ← dropLetters? ['a', 'y'] s
      some ((dropLetters? ['s'] s).getD s)
    else some s
  | [] => some []

/-- Days, and perhaps a clock time behind a comma, a space or both, which may also stand alone. -/
def daysAndClock? (s : List Char) : Option Duration := do
  let a ← amount? s
  if a.fraction.isSome then none else
  let s ← dropDayWord? ((dropLetters? [' '] a.rest).getD a.rest)
  let s := (dropLetters? [','] s).getD s
  if s.isEmpty then some ⟨a.whole, 0, 0⟩ else
  let s ← dropLetters? [' '] s
  if s.isEmpty then some ⟨a.whole, 0, 0⟩ else
  let d ← clock? s
  add? ⟨a.whole, 0, 0⟩ d

/-- The amount that a text without its sign stands for, `length` being the length with the sign. A
`P` alone, or with a bare `T`, says nothing and is refused; a text shorter than any clock time can
only be days. -/
def unsigned? (length : Nat) : List Char → Option Duration
  | 'P' :: s => if s.length < 2 then none else units? {} false false s
  | s =>
    if length < 5 || s.any (fun c => c = 'd' || c = 'D') then daysAndClock? s else clock? s

/-- The microseconds that a text stands for. -/
def ofText? (s : List Char) : Option Int :=
  match s with
  | '-' :: t => (unsigned? s.length t).bind (·.signed? true)
  | '+' :: t => (unsigned? s.length t).bind (·.signed? false)
  | t => (unsigned? s.length t).bind (·.signed? false)

/-- The microseconds of a float of seconds. -/
def ofSeconds? (x : Float) : Option Int :=
  if x.isNaN || x.isInf then none
  else (ofFloat x.abs).signed? (x < 0.0)

/-- The microseconds of a whole number of seconds. -/
def ofWhole? (n : Int) : Option Int :=
  (Duration.mk (n.natAbs / 86400) (n.natAbs % 86400) 0).signed? (n < 0)

end Duration

end Bearer.Time
