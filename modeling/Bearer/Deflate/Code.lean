import Bearer.Deflate.Bits

/-!
# Codes

In a code each symbol has a row of bits, and no row is the start of another. Such a code is told by
the lengths of the rows alone: shorter rows come before longer ones, and those of one length are in
the order of their symbols. There must be neither too many rows nor too few; but a code of a single
row of one bit will do where nothing else is needed, and so will one without rows.

* `read?_length_lt`: a symbol takes at least one bit.
-/
namespace Bearer.Deflate

/-- A code: for each length from one on the symbols whose rows have it. -/
abbrev Code := List (Array Nat)

namespace Code

/-- The code in which each symbol, counted from zero, has a row of this length; none where that is
zero. -/
def ofLengths (lengths : List Nat) : Code :=
  (List.range (lengths.foldl max 0)).map fun k =>
    ((List.range lengths.length).filter fun n => lengths[n]? = some (k + 1)).toArray

/-- How many rows of the greatest length are not taken; negative if too many are. -/
def room (c : Code) : Int :=
  c.foldl (fun room symbols => 2 * room - symbols.size) 1

/-- Whether every row of bits leads to a symbol, or there are no symbols. -/
def isComplete (c : Code) : Bool :=
  c.isEmpty || c.room = 0

/-- Whether the code will do. -/
def isUsable (c : Code) : Bool :=
  c.isComplete || (c.length = 1 && 0 < c.room)

/-- Goes on reading behind a row that stands so many places behind the last symbol of its length. -/
def readFrom (offset : Nat) : Code → Bits → Option (Option Nat × Bits)
  | _, [] => none
  | [], _ :: s => some (none, s)
  | symbols :: c, b :: s =>
    let place := Bits.shifted b offset
    match symbols[place]? with
    | some n => some (some n, s)
    | none => if c.isEmpty then some (none, s) else readFrom (place - symbols.size) c s

/-- The symbol at the front, absent if no symbol has these bits, and what follows; nothing if the
data ends before. -/
def read? (c : Code) (s : Bits) : Option (Option Nat × Bits) :=
  readFrom 0 c s

theorem readFrom_length_lt {offset : Nat} {c : Code} {s rest : Bits} {n : Option Nat}
    (h : readFrom offset c s = some (n, rest)) : rest.length < s.length := by
  induction c generalizing offset s with
  | nil =>
    cases s with
    | nil => simp [readFrom] at h
    | cons b s =>
      simp only [readFrom, Option.some.injEq, Prod.mk.injEq] at h
      simp [h.2]
  | cons symbols c ih =>
    cases s with
    | nil => simp [readFrom] at h
    | cons b s =>
      simp only [readFrom] at h
      split at h
      · simp only [Option.some.injEq, Prod.mk.injEq] at h
        simp [h.2]
      · split at h
        · simp only [Option.some.injEq, Prod.mk.injEq] at h
          simp [h.2]
        · exact Nat.lt_succ_of_lt (ih h)

theorem read?_length_lt {c : Code} {s rest : Bits} {n : Option Nat}
    (h : c.read? s = some (n, rest)) : rest.length < s.length :=
  readFrom_length_lt h

end Code

end Bearer.Deflate
