import Bearer.Text.Digits

/-!
# Laying text out in a field

A layout says how wide a field is, where the text stands in it, what fills the rest, and how much
of the text is kept. It is written `[[fill]align][0][width][.precision][s]`: `<`, `>` and `^` put
the text left, right or in the middle, and a `0` in front of the width is the fill unless one is
given. Numbers may be in the digits of any script, but not of more than 63 bits. Signs, other
alignments, separators and other types are for numbers and are refused.

* `number?_isBounded`: no number of a layout is beyond the largest one.
* `length_apply`: a text laid out is as wide as its field or as what is kept of it.
-/
namespace Bearer.Text

/-- Where a text stands in its field. -/
inductive Align where
  | left
  | right
  | middle
deriving DecidableEq, Repr

/-- How a text is laid out. -/
structure Layout where
  /-- What fills the rest of the field. -/
  fill : Char := ' '
  /-- Where the text stands. -/
  align : Align := .left
  /-- The width of the field. -/
  width : Nat := 0
  /-- How much of the text is kept. -/
  precision : Option Nat := none
deriving DecidableEq, Repr

namespace Layout

/-- The alignment that a character stands for. -/
def align? (c : Char) : Option Align :=
  if c = '<' then some .left
  else if c = '>' then some .right
  else if c = '^' then some .middle
  else none

/-- Reads the type, which can only be that of texts. -/
def finish? (l : Layout) (s : List Char) : Option Layout :=
  if s = [] || s = ['s'] then some l else none

/-- The largest number that a layout may hold. -/
def largest : Nat := Nat.pow 2 63 - 1

/-- Whether a character is a digit of any script. -/
def isDigit (c : Char) : Bool := (digitValue? c).isSome

/-- Reads a number, if one stands here, and what follows; a number too large is refused. -/
def number? (s : List Char) : Option (Option Nat × List Char) :=
  match decimal? (s.takeWhile isDigit) with
  | none => some (none, s)
  | some n => if largest < n then none else some (some n, s.dropWhile isDigit)

theorem number?_isBounded {s t : List Char} {n : Nat} (h : number? s = some (some n, t)) :
    n ≤ largest := by
  unfold number? at h
  split at h
  · simp at h
  · simp only [Option.ite_none_left_eq_some, Option.some.injEq, Prod.mk.injEq] at h
    omega

/-- Reads the precision and what follows. -/
def precision? (l : Layout) : List Char → Option Layout
  | '.' :: s =>
    match number? s with
    | some (some n, s) => finish? { l with precision := some n } s
    | _ => none
  | s => finish? l s

/-- Reads the width and what follows. -/
def width? (l : Layout) (s : List Char) : Option Layout :=
  (number? s).bind fun (n, s) => precision? { l with width := n.getD 0 } s

/-- Reads the zero in front of the width and what follows. `filled`: a fill has been given. -/
def zero? (filled : Bool) (l : Layout) : List Char → Option Layout
  | '0' :: s => width? (if filled then l else { l with fill := '0' }) (if filled then '0' :: s else s)
  | s => width? l s

/-- Whether a character stands for an alignment, that of numbers included. -/
def isAlignSign (c : Char) : Bool :=
  c = '=' || (align? c).isSome

/-- Reads a layout. -/
def parse? : List Char → Option Layout
  | f :: a :: s =>
    if isAlignSign a then (align? a).bind fun a => zero? true { fill := f, align := a } s
    else if isAlignSign f then (align? f).bind fun f => zero? false { align := f } (a :: s)
    else zero? false {} (f :: a :: s)
  | [f] => if isAlignSign f then (align? f).map fun f => { align := f } else zero? false {} [f]
  | [] => some {}

/-- What is kept of a text. -/
def kept (l : Layout) (s : List Char) : List Char :=
  match l.precision with
  | some n => s.take n
  | none => s

/-- How much fill stands in front of a text that leaves `room` in its field. -/
def before (l : Layout) (room : Nat) : Nat :=
  match l.align with
  | .left => 0
  | .right => room
  | .middle => room / 2

theorem before_le (l : Layout) (room : Nat) : l.before room ≤ room := by
  unfold before; split <;> omega

/-- A text laid out. -/
def apply (l : Layout) (s : List Char) : List Char :=
  let room := l.width - (l.kept s).length
  List.replicate (l.before room) l.fill ++ l.kept s ++
    List.replicate (room - l.before room) l.fill

theorem length_apply (l : Layout) (s : List Char) :
    (l.apply s).length = max l.width (l.kept s).length := by
  have := l.before_le (l.width - (l.kept s).length)
  simp only [apply, List.length_append, List.length_replicate]
  omega

end Layout

end Bearer.Text
