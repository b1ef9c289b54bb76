/-!
# Decimal digits

The decimal digits of all scripts. Each script has its ten digits in a row, from zero to nine, so
that a list of the zeros tells them all (general category `Nd` in version 14 of Unicode).

* `digitValue_lt`: the value of a digit is below ten.
* `digitValue?_ascii`: what the value of an ASCII digit is.
-/
namespace Bearer.Text

/-- The code points of the zeros, in ascending order. -/
def zeros : List Nat :=
  [0x30, 0x660, 0x6f0, 0x7c0, 0x966, 0x9e6, 0xa66, 0xae6, 0xb66, 0xbe6, 0xc66, 0xce6, 0xd66, 0xde6,
   0xe50, 0xed0, 0xf20, 0x1040, 0x1090, 0x17e0, 0x1810, 0x1946, 0x19d0, 0x1a80, 0x1a90, 0x1b50,
   0x1bb0, 0x1c40, 0x1c50, 0xa620, 0xa8d0, 0xa900, 0xa9d0, 0xa9f0, 0xaa50, 0xabf0, 0xff10, 0x104a0,
   0x10d30, 0x11066, 0x110f0, 0x11136, 0x111d0, 0x112f0, 0x11450, 0x114d0, 0x11650, 0x116c0,
   0x11730, 0x118e0, 0x11950, 0x11c50, 0x11d50, 0x11da0, 0x16a60, 0x16ac0, 0x16b50, 0x1d7ce,
   0x1d7d8, 0x1d7e2, 0x1d7ec, 0x1d7f6, 0x1e140, 0x1e2f0, 0x1e950, 0x1fbf0]

/-- The value of a decimal digit. -/
def digitValue? (c : Char) : Option Nat :=
  (zeros.find? fun z => z ≤ c.toNat && c.toNat < z + 10).map fun z => c.toNat - z

theorem digitValue_lt {c : Char} {n : Nat} (h : digitValue? c = some n) : n < 10 := by
  obtain ⟨z, hz, rfl⟩ := Option.map_eq_some_iff.1 h
  have := List.find?_some hz
  simp only [Bool.and_eq_true, decide_eq_true_eq] at this
  omega

theorem digitValue?_ascii {c : Char} (h : 48 ≤ c.toNat) (h' : c.toNat ≤ 57) :
    digitValue? c = some (c.toNat - 48) := by
  simp [digitValue?, zeros, h, Nat.lt_succ_of_le h']

/-- The number that decimal digits of any scripts stand for; there must be one. -/
def decimal? (s : List Char) : Option Nat :=
  if s.isEmpty then none
  else s.foldl (fun n c => do return (← n) * 10 + (← digitValue? c)) (some 0)

end Bearer.Text
