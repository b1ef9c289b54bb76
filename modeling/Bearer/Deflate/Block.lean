import Bearer.Deflate.Code
import Bearer.Deflate.Fault

/-!
# Blocks

Compressed text is a row of blocks, the last of which says so. A block holds bytes as they are, or
is coded: its symbols stand for bytes, for copies of text further up, and for its end. The codes are
fixed, or stand in front of the block; then the lengths of their rows are coded themselves.

Data that ends too soon is no fault: the text up to there is what it stands for.

* `item?_length_lt`: whatever a symbol stands for takes at least one bit.
-/
namespace Bearer.Deflate

/-! ## Symbols -/

/-- The two codes of a block. -/
structure Codes where
  /-- The code of bytes, lengths of copies, and the end of the block. -/
  literals : Code
  /-- The code of the distances of copies. -/
  distances : Code

/-- For each symbol of a length the least length, and how many bits tell what to add. -/
def lengthRows : List (Nat × Nat) :=
  [(3, 0), (4, 0), (5, 0), (6, 0), (7, 0), (8, 0), (9, 0), (10, 0), (11, 1), (13, 1), (15, 1),
   (17, 1), (19, 2), (23, 2), (27, 2), (31, 2), (35, 3), (43, 3), (51, 3), (59, 3), (67, 4),
   (83, 4), (99, 4), (115, 4), (131, 5), (163, 5), (195, 5), (227, 5), (258, 0)]

/-- The same for each symbol of a distance. -/
def distanceRows : List (Nat × Nat) :=
  [(1, 0), (2, 0), (3, 0), (4, 0), (5, 1), (7, 1), (9, 2), (13, 2), (17, 3), (25, 3), (33, 4),
   (49, 4), (65, 5), (97, 5), (129, 6), (193, 6), (257, 7), (385, 7), (513, 8), (769, 8),
   (1025, 9), (1537, 9), (2049, 10), (3073, 10), (4097, 11), (6145, 11), (8193, 12), (12289, 12),
   (16385, 13), (24577, 13)]

/-- What a symbol and the bits behind it stand for. -/
inductive Item where
  /-- A byte. -/
  | byte (b : UInt8)
  /-- The end of the block. -/
  | finish
  /-- A copy of text. -/
  | copy (length distance : Nat)
  /-- Nothing. -/
  | fault (f : Fault)

/-- The number that a row of a table and bits behind it make, and what follows. -/
def amount? (row : Nat × Nat) (s : Bits) : Option (Nat × Bits) :=
  (Bits.number? row.2 s).map fun r => (row.1 + r.1, r.2)

/-- The copy of this length whose distance comes next, and what follows. -/
def copy? (distances : Code) (length : Nat) (s : Bits) : Option (Item × Bits) :=
  (distances.read? s).bind fun r =>
    match r.1.bind fun n => distanceRows[n]? with
    | none => some (.fault .distance, r.2)
    | some row => (amount? row r.2).map fun d => (.copy length d.1, d.2)

/-- What comes next in a coded block, and what follows; nothing if the data ends before. -/
def item? (cs : Codes) (s : Bits) : Option (Item × Bits) :=
  (cs.literals.read? s).bind fun r =>
    match r.1 with
    | none => some (.fault .literal, r.2)
    | some n =>
      if n < 256 then some (.byte (UInt8.ofNat n), r.2)
      else if n = 256 then some (.finish, r.2)
      else match lengthRows[n - 257]? with
        | none => some (.fault .literal, r.2)
        | some row => (amount? row r.2).bind fun l => copy? cs.distances l.1 l.2

theorem amount?_length_le {row : Nat × Nat} {s rest : Bits} {n : Nat}
    (h : amount? row s = some (n, rest)) : rest.length ≤ s.length := by
  obtain ⟨⟨v, t⟩, hr, he⟩ := Option.map_eq_some_iff.1 h
  simp only [Prod.mk.injEq] at he
  have := Bits.number?_length hr
  rw [← he.2]
  omega

theorem copy?_length_lt {distances : Code} {length : Nat} {s rest : Bits} {i : Item}
    (h : copy? distances length s = some (i, rest)) : rest.length < s.length := by
  obtain ⟨⟨n, t⟩, hr, h⟩ := Option.bind_eq_some_iff.1 h
  have ht := Code.read?_length_lt hr
  simp only at h
  split at h
  · obtain ⟨-, rfl⟩ := Prod.mk.inj (Option.some.inj h)
    exact ht
  · obtain ⟨⟨d, u⟩, ha, he⟩ := Option.map_eq_some_iff.1 h
    obtain ⟨-, rfl⟩ := Prod.mk.inj he
    exact Nat.lt_of_le_of_lt (amount?_length_le ha) ht

theorem item?_length_lt {cs : Codes} {s rest : Bits} {i : Item}
    (h : item? cs s = some (i, rest)) : rest.length < s.length := by
  obtain ⟨⟨n, t⟩, hr, h⟩ := Option.bind_eq_some_iff.1 h
  have ht := Code.read?_length_lt hr
  simp only at h
  split at h
  · obtain ⟨-, rfl⟩ := Prod.mk.inj (Option.some.inj h)
    exact ht
  · split at h
    · obtain ⟨-, rfl⟩ := Prod.mk.inj (Option.some.inj h)
      exact ht
    · split at h
      · obtain ⟨-, rfl⟩ := Prod.mk.inj (Option.some.inj h)
        exact ht
      · split at h
        · obtain ⟨-, rfl⟩ := Prod.mk.inj (Option.some.inj h)
          exact ht
        · obtain ⟨⟨l, u⟩, ha, h⟩ := Option.bind_eq_some_iff.1 h
          exact Nat.lt_trans (copy?_length_lt h) (Nat.lt_of_le_of_lt (amount?_length_le ha) ht)

/-! ## Coded blocks -/

/-- Where reading leads to. -/
inductive Progress where
  /-- A part has been read; this is the text so far, and what follows. -/
  | done (text : Array UInt8) (rest : Bits)
  /-- The data ends too soon. -/
  | cut (text : Array UInt8)
  /-- Something is wrong. -/
  | fault (f : Fault)

/-- A text with a copy of what stands at a distance before its end. -/
def withCopy (length distance : Nat) (text : Array UInt8) : Array UInt8 :=
  (List.range length).foldl (fun t _ => t.push (t.getD (t.size - distance) 0)) text

/-- Reads a coded block behind its codes. -/
def coded (cs : Codes) (text : Array UInt8) (s : Bits) : Progress :=
  match h : item? cs s with
  | none => .cut text
  | some (.fault f, _) => .fault f
  | some (.finish, rest) => .done text rest
  | some (.byte b, rest) =>
    have := item?_length_lt h
    coded cs (text.push b) rest
  | some (.copy length distance, rest) =>
    have := item?_length_lt h
    if text.size < distance then .fault .tooFar
    else coded cs (withCopy length distance text) rest
termination_by s.length

/-! ## Codes -/

/-- The codes of blocks that do not bring their own. -/
def fixedCodes : Codes where
  literals := .ofLengths (List.replicate 144 8 ++ List.replicate 112 9 ++ List.replicate 24 7 ++
    List.replicate 8 8)
  distances := .ofLengths (List.replicate 32 5)

/-- The order in which the lengths of the code for lengths are given. -/
def lengthOrder : List Nat :=
  [16, 17, 18, 0, 8, 7, 9, 6, 10, 5, 11, 4, 12, 3, 13, 2, 14, 1, 15]

/-- As many numbers of three bits, and what follows. -/
def triples? : Nat → Bits → Option (List Nat × Bits)
  | 0, s => some ([], s)
  | n + 1, s =>
    (Bits.number? 3 s).bind fun r => (triples? n r.2).map fun rs => (r.1 :: rs.1, rs.2)

/-- The code for lengths, given some lengths in their order. -/
def lengthCode (given : List Nat) : Code :=
  .ofLengths ((List.range 19).map fun n => (given[lengthOrder.idxOf n]?).getD 0)

/-- How a length repeats: with this many bits that tell what to add to a least number. -/
def repetition? (n : Nat) : Option (Nat × Nat) :=
  if n = 16 then some (3, 2) else if n = 17 then some (3, 3) else if n = 18 then some (11, 7)
  else none

/-- Reads lengths until there are `count`, unless the data ends before; those that have been read
are in reverse. -/
def lengths? (c : Code) (count : Nat) (read : List Nat) (s : Bits) :
    Option (Except Fault (List Nat) × Bits) :=
  if count ≤ read.length then some (.ok read.reverse, s)
  else
    match h : c.read? s with
    | none => none
    | some (symbol, rest) =>
      have := Code.read?_length_lt h
      let n := symbol.getD 0
      match repetition? n with
      | none => lengths? c count (n :: read) rest
      | some row =>
        match ha : amount? row rest with
        | none => none
        | some (times, rest) =>
          have := amount?_length_le ha
          let repeated := if n = 16 then read.head? else some 0
          match repeated with
          | none => some (.error .repetition, rest)
          | some l =>
            if count < read.length + times then some (.error .repetition, rest)
            else lengths? c count (List.replicate times l ++ read) rest
termination_by s.length

/-- The codes with rows of the given lengths; the first `count` are for literals. -/
def codesOf (count : Nat) (ls : List Nat) : Except Fault Codes :=
  let cs : Codes := ⟨.ofLengths (ls.take count), .ofLengths (ls.drop count)⟩
  if ls[256]? = some 0 then .error .noEnd
  else if !cs.literals.isUsable then .error .literalCode
  else if !cs.distances.isUsable then .error .distanceCode
  else .ok cs

/-- Reads the description of codes, unless the data ends before. -/
def described? (s : Bits) : Option (Except Fault Codes × Bits) := do
  let (literals, s) ← amount? (257, 5) s
  let (distances, s) ← amount? (1, 5) s
  let (count, s) ← amount? (4, 4) s
  if 286 < literals || 30 < distances then return (.error .tooMany, s)
  let (given, s) ← triples? count s
  let code := lengthCode given
  if !code.isComplete then return (.error .lengthCode, s)
  let (ls, s) ← lengths? code (literals + distances) [] s
  return (ls.bind (codesOf literals), s)

/-! ## All blocks -/

/-- Reads a stored block. -/
def stored (text : Array UInt8) (s : Bits) : Progress :=
  let lengths := (Bits.number? 16 (Bits.aligned s)).bind fun l =>
    (Bits.number? 16 l.2).map fun k => (l.1, k)
  match lengths with
  | none => .cut text
  | some (length, complement, rest) =>
    if length + complement ≠ 65535 then .fault .storedLength
    else
      let text := text ++ (Bits.bytes length rest).toArray
      if rest.length < 8 * length then .cut text else .done text (rest.drop (8 * length))

/-- Reads a block behind its type. -/
def block (type : Nat) (text : Array UInt8) (s : Bits) : Progress :=
  if type = 0 then stored text s
  else if type = 1 then coded fixedCodes text s
  else if type = 2 then
    match described? s with
    | none => .cut text
    | some (.error f, _) => .fault f
    | some (.ok cs, rest) => coded cs text rest
  else .fault .blockType

/-- Reads blocks up to the last one. -/
def blocks (text : Array UInt8) (s : Bits) : Progress :=
  match Bits.number? 3 s with
  | none => .cut text
  | some (head, rest) =>
    match block (head / 2) text rest with
    | .done text rest =>
      if head % 2 = 1 then .done text rest
      else if _h : rest.length < s.length then blocks text rest
      else .cut text
    | other => other
termination_by s.length

end Bearer.Deflate
