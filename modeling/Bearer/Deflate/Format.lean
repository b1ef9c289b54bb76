import Bearer.Deflate.Block
import Bearer.Deflate.Checksum

/-!
# Formats

Blocks stand alone or in a format that has a header in front of them and sums behind. One has a
short header with a sum of its own; the other a longer one, with parts that may be absent. Data that
ends too soon is no fault, and what follows the end does not count.
-/
namespace Bearer.Deflate

/-- How blocks are wrapped. -/
inductive Format where
  /-- Not at all. -/
  | bare
  /-- With a header of two bytes. -/
  | short
  /-- With a header of ten bytes and more. -/
  | long
deriving DecidableEq, Repr

/-- What reading a header gives: what follows it, nothing if the data ends before, or a fault. -/
abbrev Opened := Except Fault (Option (List UInt8))

/-- The number that bytes make, the lowest first. -/
def ofLowest : List UInt8 → Nat
  | [] => 0
  | b :: bs => b.toNat + 256 * ofLowest bs

/-- As many bytes, and what follows them. -/
def cut? (n : Nat) (bs : List UInt8) : Option (List UInt8 × List UInt8) :=
  if bs.length < n then none else some (bs.take n, bs.drop n)

/-- Reads the header of two bytes. -/
def openShort : List UInt8 → Opened
  | a :: b :: rest =>
    if (a.toNat * 256 + b.toNat) % 31 ≠ 0 then .error .header
    else if a.toNat % 16 ≠ 8 then .error .method
    else if 7 < a.toNat / 16 then .error .window
    else if b.toNat.testBit 5 then
      if rest.length < 4 then .ok none else .error .dictionary
    else .ok (some rest)
  | _ => .ok none

/-- What follows a part with its length in front. -/
def dropExtra? (bs : List UInt8) : Option (List UInt8) :=
  (cut? 2 bs).bind fun r => (cut? (ofLowest r.1) r.2).map (·.2)

/-- What follows a part that ends with a zero. -/
def dropText? (bs : List UInt8) : Option (List UInt8) :=
  match bs.dropWhile (· ≠ 0) with
  | _ :: rest => some rest
  | [] => none

/-- What follows a part that is there only if a flag is set. -/
def dropIf? (flag : Bool) (drop? : List UInt8 → Option (List UInt8)) (bs : List UInt8) :
    Option (List UInt8) :=
  if flag then drop? bs else some bs

/-- Checks the sum of a header, if it has one. -/
def checkHeader (flag : Bool) (data rest : List UInt8) : Opened :=
  if !flag then .ok (some rest)
  else match cut? 2 rest with
    | none => .ok none
    | some (sum, after) =>
      if ofLowest sum = Checksum.crc (data.take (data.length - rest.length)) % 65536 then
        .ok (some after)
      else .error .headerSum

/-- Reads the header of ten bytes and more. -/
def openLong (data : List UInt8) : Opened :=
  match cut? 2 data with
  | none => .ok none
  | some (start, rest) =>
    if start ≠ [0x1f, 0x8b] then .error .header
    else match rest with
      | method :: flags :: rest =>
        let flag := fun i => flags.toNat.testBit i
        if method ≠ 8 then .error .method
        else if flag 5 || flag 6 || flag 7 then .error .flags
        else
          let after := (cut? 6 rest).bind fun r =>
            (dropIf? (flag 2) dropExtra? r.2).bind fun bs =>
              (dropIf? (flag 3) dropText? bs).bind (dropIf? (flag 4) dropText?)
          match after with
          | none => .ok none
          | some rest => checkHeader (flag 1) data rest
      | _ => .ok none

/-- Reads the header of a format. -/
def Format.openData : Format → List UInt8 → Opened
  | .bare, data => .ok (some data)
  | .short, data => openShort data
  | .long, data => openLong data

/-- Checks a sum of four bytes, if they are all there. -/
def checkSum (f : Fault) (expected : Nat) (found : List UInt8) : Except Fault Unit :=
  if found.length < 4 || ofLowest found = expected then .ok () else .error f

/-- Checks the sums that a format has behind the blocks. -/
def Format.checkSums (format : Format) (text : List UInt8) (rest : Bits) : Except Fault Unit :=
  let sums := Bits.bytes 8 (Bits.aligned rest)
  match format with
  | .bare => .ok ()
  | .short => checkSum .dataSum (Checksum.adler text) (sums.take 4).reverse
  | .long => do
    checkSum .dataSum (Checksum.crc text) (sums.take 4)
    checkSum .lengthSum (text.length % Nat.pow 2 32) (sums.drop 4)

/-- The text that data in a format stands for. -/
def Format.text (format : Format) (data : List UInt8) : Except Fault (List UInt8) :=
  match format.openData data with
  | .error f => .error f
  | .ok none => .ok []
  | .ok (some rest) =>
    match blocks #[] (Bits.ofBytes rest) with
    | .fault f => .error f
    | .cut text => .ok text.toList
    | .done text rest => (format.checkSums text.toList rest).map fun _ => text.toList

end Bearer.Deflate
