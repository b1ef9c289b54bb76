/-!
# Bits

Compressed data is read bit by bit, each byte from its lowest bit on. Of a number the lowest bit
comes first. Where the data ends inside a number, there is none.

* `ofBytes_length`: a byte has eight bits.
* `number?_length`: a number takes as many bits as it has.
-/
namespace Bearer.Deflate

/-- Data that is read bit by bit. -/
abbrev Bits := List Bool

namespace Bits

/-- The bits of a byte. -/
def ofByte (b : UInt8) : Bits :=
  (List.range 8).map fun i => b.toNat.testBit i

/-- The bits of bytes. -/
def ofBytes (bs : List UInt8) : Bits :=
  bs.flatMap ofByte

theorem ofBytes_length (bs : List UInt8) : (ofBytes bs).length = 8 * bs.length := by
  induction bs with
  | nil => rfl
  | cons b bs ih =>
    rw [ofBytes, List.flatMap_cons, List.length_append, ← ofBytes, ih]
    simp only [ofByte, List.length_map, List.length_range, List.length_cons]
    omega

/-- The number that a bit and those behind it make. -/
def shifted (b : Bool) (n : Nat) : Nat :=
  2 * n + b.toNat

/-- A number of as many bits, and what follows it. -/
def number? : Nat → Bits → Option (Nat × Bits)
  | 0, s => some (0, s)
  | _ + 1, [] => none
  | n + 1, b :: s => (number? n s).map fun r => (shifted b r.1, r.2)

theorem number?_length {n v : Nat} {s rest : Bits} (h : number? n s = some (v, rest)) :
    rest.length + n = s.length := by
  induction n generalizing s v with
  | zero =>
    simp only [number?, Option.some.injEq, Prod.mk.injEq] at h
    simp [h.2]
  | succ n ih =>
    cases s with
    | nil => simp [number?] at h
    | cons b s =>
      obtain ⟨⟨w, t⟩, hr, he⟩ := Option.map_eq_some_iff.1 h
      simp only [Prod.mk.injEq] at he
      rw [he.2] at hr
      have := ih hr
      simp only [List.length_cons]
      omega

/-- What follows the byte that has been begun. -/
def aligned (s : Bits) : Bits :=
  s.drop (s.length % 8)

/-- As many bytes, or all that there are. -/
def bytes : Nat → Bits → List UInt8
  | 0, _ => []
  | n + 1, s =>
    match number? 8 s with
    | some (b, rest) => UInt8.ofNat b :: bytes n rest
    | none => []

end Bits

end Bearer.Deflate
