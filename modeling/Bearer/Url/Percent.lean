import Bearer.Text.Utf8

/-!
# Percent escapes

Characters that may not stand in a URL are written byte by byte, in UTF-8, as `%` and two
hexadecimal capitals. Reading takes the bytes back; a `%` that no two hexadecimal digits follow
stands for itself, and what is no UTF-8 becomes replacement characters.

* `escape_append`, `unescapeBytes_escapeByte`: escapes are written and read one by one.
-/
namespace Bearer.Url

/-- A hexadecimal digit as a capital. -/
def hexChar (n : Nat) : Char :=
  if n < 10 then Char.ofNat (48 + n) else Char.ofNat (55 + n)

/-- The value of a hexadecimal digit. -/
def hexValue? (c : Char) : Option Nat :=
  let n := c.toNat
  if 48 ≤ n && n ≤ 57 then some (n - 48)
  else if 65 ≤ n && n ≤ 70 then some (n - 55)
  else if 97 ≤ n && n ≤ 102 then some (n - 87)
  else none

/-- A byte as an escape. -/
def escapeByte (b : UInt8) : List Char :=
  ['%', hexChar (b.toNat / 16), hexChar (b.toNat % 16)]

/-- A character as it is if it is safe, and else its bytes as escapes. -/
def escapeChar (safe : Char → Bool) (c : Char) : List Char :=
  if safe c then [c] else (Text.Utf8.encodeChar c).flatMap escapeByte

/-- A text with all that is not safe escaped. -/
def escape (safe : Char → Bool) (s : List Char) : List Char :=
  s.flatMap (escapeChar safe)

@[simp] theorem escape_append (safe : Char → Bool) (s t : List Char) :
    escape safe (s ++ t) = escape safe s ++ escape safe t := by
  simp [escape]

/-- The bytes that a text with escapes stands for. -/
def unescapeBytes : List Char → List UInt8
  | '%' :: a :: b :: s =>
    match hexValue? a, hexValue? b with
    | some m, some n => UInt8.ofNat (m * 16 + n) :: unescapeBytes s
    | _, _ => 0x25 :: unescapeBytes (a :: b :: s)
  | c :: s => Text.Utf8.encodeChar c ++ unescapeBytes s
  | [] => []

/-- The text that a text with escapes stands for. -/
def unescape (s : List Char) : List Char :=
  Text.Utf8.decodeLossy (unescapeBytes s)

theorem hexValue?_hexChar : ∀ n < 16, hexValue? (hexChar n) = some n := by
  decide

theorem unescapeBytes_escapeByte (b : UInt8) (s : List Char) :
    unescapeBytes (escapeByte b ++ s) = b :: unescapeBytes s := by
  have hb := b.toNat_lt
  have h1 := hexValue?_hexChar (b.toNat / 16) (by omega)
  have h2 := hexValue?_hexChar (b.toNat % 16) (by omega)
  simp only [escapeByte, List.cons_append, List.nil_append, unescapeBytes, h1, h2]
  rw [show b.toNat / 16 * 16 + b.toNat % 16 = b.toNat by omega]
  simp

/-- Whether a character is an ASCII letter or digit. -/
def isAlphanumeric (c : Char) : Bool :=
  let n := c.toNat
  (48 ≤ n && n ≤ 57) || (65 ≤ n && n ≤ 90) || (97 ≤ n && n ≤ 122)

/-- Whether a character means nothing special anywhere in a URL. -/
def isUnreserved (c : Char) : Bool :=
  isAlphanumeric c || c = '-' || c = '.' || c = '_' || c = '~'

end Bearer.Url
