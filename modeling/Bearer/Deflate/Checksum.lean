/-!
# Sums over bytes

Two sums by which damage to bytes is noticed. One is the remainder of a division of polynomials over
the bits (the CRC of 32 bits, lowest bit first); the other a sum of the bytes and a sum of these
sums, both modulo the greatest prime of 16 bits.

* `adler_lt`: the second sum fits 32 bits.
-/
namespace Bearer.Deflate.Checksum

/-- The divisor. -/
def divisor : UInt32 := 0xedb88320

/-- The remainder one bit further. -/
def shift (r : UInt32) : UInt32 :=
  if r &&& 1 = 1 then (r >>> 1) ^^^ divisor else r >>> 1

/-- The remainder one byte further. -/
def step (r : UInt32) (b : UInt8) : UInt32 :=
  (List.range 8).foldl (fun r _ => shift r) (r ^^^ b.toUInt32)

/-- The remainder of bytes. -/
def crc (bs : List UInt8) : Nat :=
  (bs.foldl step 0xffffffff ^^^ 0xffffffff).toNat

/-- The greatest prime of 16 bits. -/
def prime : Nat := 65521

/-- The two sums one byte further. -/
def add (s : Nat × Nat) (b : UInt8) : Nat × Nat :=
  let first := (s.1 + b.toNat) % prime
  (first, (s.2 + first) % prime)

/-- The sum of bytes and the sum of these sums, in one number. -/
def adler (bs : List UInt8) : Nat :=
  let s := bs.foldl add (1, 0)
  s.2 * 65536 + s.1

theorem foldl_add_lt (bs : List UInt8) {s : Nat × Nat} (h : s.1 < prime ∧ s.2 < prime) :
    (bs.foldl add s).1 < prime ∧ (bs.foldl add s).2 < prime := by
  induction bs generalizing s with
  | nil => exact h
  | cons b bs ih =>
    exact ih ⟨Nat.mod_lt _ (by decide), Nat.mod_lt _ (by decide)⟩

theorem adler_lt (bs : List UInt8) : adler bs < Nat.pow 2 32 := by
  have h := foldl_add_lt bs (s := (1, 0)) ⟨by decide, by decide⟩
  have hp : prime = 65521 := rfl
  have h2 : Nat.pow 2 32 = 4294967296 := rfl
  unfold adler
  simp only
  omega

end Bearer.Deflate.Checksum
