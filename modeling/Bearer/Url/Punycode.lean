/-!
# Punycode

Text of any characters as ASCII text. The ASCII characters come first, with a hyphen behind them.
Then the other characters are put in one by one, in the order of their code points: each is told by
how many places and code points lie between it and the one before. These gaps are numbers in base
36 with the lowest digit first. A digit ends its number if it is below a threshold, and thresholds
follow a bias that adapts to the gaps seen so far. Reading takes letters in either case as digits; a
text with other characters, or one whose last number does not end, or that leads beyond the last
code point, stands for nothing.

* `threshold_pos`, `threshold_le`: a threshold leaves room for digits on both sides.
* `encode_of_ascii`: ASCII text only gets a hyphen behind it.
* `readGap?_length_lt`: a gap has at least one digit.
-/
namespace Bearer.Url.Punycode

/-- The digit of a value below 36: letters, then figures. -/
def digit (n : Nat) : Char :=
  if n < 26 then Char.ofNat (97 + n) else Char.ofNat (22 + n)

/-- The threshold of the digit at a place, which counts in steps of 36. -/
def threshold (bias place : Nat) : Nat :=
  min 26 (max 1 (place - bias))

theorem threshold_pos (bias place : Nat) : 1 ≤ threshold bias place := by
  unfold threshold
  omega

theorem threshold_le (bias place : Nat) : threshold bias place ≤ 26 := by
  unfold threshold
  omega

/-- The digits of a gap from a place on. -/
def gap (bias place n : Nat) : List Char :=
  let t := threshold bias place
  if n < t then [digit n]
  else digit (t + (n - t) % (36 - t)) :: gap bias (place + 36) ((n - t) / (36 - t))
termination_by n
decreasing_by
  have := threshold_pos bias place
  have := Nat.div_le_self (n - threshold bias place) (36 - threshold bias place)
  omega

/-- What a large gap adds to the bias, and what is left of the gap. -/
def scaled (n : Nat) : Nat × Nat :=
  if 455 < n then
    let (steps, left) := scaled (n / 35)
    (steps + 36, left)
  else (0, n)
termination_by n
decreasing_by exact Nat.div_lt_self (by omega) (by omega)

/-- The bias after a gap that put the character of this number in. -/
def adapted (n count : Nat) (first : Bool) : Nat :=
  let n := if first then n / 700 else n / 2
  let (steps, left) := scaled (n + n / count)
  steps + 36 * left / (left + 38)

/-- How far the encoding is. -/
structure Progress where
  /-- The gap since the last character that was put in. -/
  gap : Nat := 0
  /-- The bias. -/
  bias : Nat := 72
  /-- How many characters are in. -/
  count : Nat
  /-- Whether none has been put in. -/
  isFirst : Bool := true
  /-- The digits, in reverse. -/
  digits : List Char := []

/-- Passes by a character when those of a code point are put in. -/
def pass (point : Nat) (p : Progress) (c : Char) : Progress :=
  if c.toNat < point then { p with gap := p.gap + 1 }
  else if c.toNat = point then
    { gap := 0
      bias := adapted p.gap (p.count + 1) p.isFirst
      count := p.count + 1
      isFirst := false
      digits := (Punycode.gap p.bias 36 p.gap).reverse ++ p.digits }
  else p

/-- Puts all characters of the code points in, which rise from `next` on. -/
def putIn (s : List Char) (next : Nat) (p : Progress) : List Nat → Progress
  | [] => p
  | point :: points =>
    let p := s.foldl (pass point) { p with gap := p.gap + (point - next) * (p.count + 1) }
    putIn s (point + 1) { p with gap := p.gap + 1 } points

/-- The code points outside ASCII, rising. -/
def points (s : List Char) : List Nat :=
  ((s.map Char.toNat).filter (128 ≤ ·)).eraseDups.mergeSort (· ≤ ·)

/-- A text as ASCII text. -/
def encode (s : List Char) : List Char :=
  let basic := s.filter fun c => c.toNat < 128
  basic ++ (if basic.isEmpty then [] else ['-']) ++
    (putIn s 128 { count := basic.length } (points s)).digits.reverse

theorem encode_of_ascii {s : List Char} (hne : s ≠ []) (h : ∀ c ∈ s, c.toNat < 128) :
    encode s = s ++ ['-'] := by
  have hf : s.filter (fun c => c.toNat < 128) = s := List.filter_eq_self.2 (by simpa using h)
  have hp : points s = [] := by
    have : (s.map Char.toNat).filter (128 ≤ ·) = [] := by simpa using h
    simp [points, this]
  simp [encode, hf, hp, putIn, hne]

/-! ## Reading -/

/-- The value of a digit. -/
def digitValue? (c : Char) : Option Nat :=
  let n := c.toNat
  if 97 ≤ n && n ≤ 122 then some (n - 97)
  else if 65 ≤ n && n ≤ 90 then some (n - 65)
  else if 48 ≤ n && n ≤ 57 then some (n - 22)
  else none

/-- Reads a gap from a place on, where a digit has a weight; also gives what follows. -/
def readGap? (bias place weight : Nat) : List Char → Option (Nat × List Char)
  | [] => none
  | c :: s =>
    (digitValue? c).bind fun d =>
      let t := threshold bias place
      if d < t then some (d * weight, s)
      else (readGap? bias (place + 36) (weight * (36 - t)) s).map fun r => (d * weight + r.1, r.2)

theorem readGap?_length_lt {bias place weight : Nat} {s rest : List Char} {n : Nat}
    (h : readGap? bias place weight s = some (n, rest)) : rest.length < s.length := by
  induction s generalizing place weight n with
  | nil => simp [readGap?] at h
  | cons c s ih =>
    unfold readGap? at h
    obtain ⟨d, -, h⟩ := Option.bind_eq_some_iff.1 h
    simp only at h
    split at h
    · simp only [Option.some.injEq, Prod.mk.injEq] at h
      simp [← h.2]
    · obtain ⟨⟨m, r⟩, hr, he⟩ := Option.map_eq_some_iff.1 h
      obtain ⟨-, rfl⟩ := Prod.mk.inj he
      exact Nat.lt_succ_of_lt (ih hr)

/-- A text part way through reading. -/
structure Reading where
  /-- The code points that are in. -/
  text : List Nat
  /-- The last code point that was put in. -/
  point : Nat := 128
  /-- The place behind it. -/
  place : Nat := 0
  /-- The bias. -/
  bias : Nat := 72
  /-- Whether none has been put in. -/
  isFirst : Bool := true

/-- Puts in the code point behind a gap, unless that lies beyond the last one. -/
def Reading.putIn? (r : Reading) (gap : Nat) : Option Reading :=
  let places := r.text.length + 1
  let point := r.point + (r.place + gap) / places
  let place := (r.place + gap) % places
  if 0x10ffff < point then none
  else some
    { text := r.text.take place ++ point :: r.text.drop place
      point := point
      place := place + 1
      bias := adapted gap places r.isFirst
      isFirst := false }

/-- Reads all gaps. -/
def Reading.finish? (r : Reading) (s : List Char) : Option (List Nat) :=
  if s.isEmpty then some r.text
  else
    match h : readGap? r.bias 36 1 s with
    | none => none
    | some (gap, rest) =>
      have := readGap?_length_lt h
      (r.putIn? gap).bind fun r => r.finish? rest
termination_by s.length

/-- The code points of the text that ASCII text stands for. -/
def decode? (s : List Char) : Option (List Nat) :=
  let back := s.reverse
  let basic := ((back.dropWhile (· != '-')).drop 1).reverse
  let digits := (back.takeWhile (· != '-')).reverse
  Reading.finish? { text := basic.map Char.toNat } digits

end Bearer.Url.Punycode
