import Bearer.Json.Value
import Bearer.Number.Decimal

/-!
# Reading JSON

`Json.read?` reads one document that is the whole text. It follows the grammar of JSON and also
takes `NaN`, `Infinity` and `-Infinity` as numbers. Of a repeated key the last value counts.
Refused are half a surrogate pair, a number of more than 4300 digits before its point, and documents
nested deeper than a limit.

Reading goes in two passes over lists: `tokens` cuts the text into lexemes one character at a
time, and `value?` and `after?` build the document from them, the containers not yet closed being
kept on a stack.
-/
namespace Bearer.Json

/-- A lexeme. -/
inductive Token where
  | openArray
  | closeArray
  | openObject
  | closeObject
  | comma
  | colon
  | text (s : String)
  | scalar (v : Json)

/-- The character between lexemes that means nothing. -/
def isSpace (c : Char) : Bool :=
  c = ' ' || c = '\t' || c = '\n' || c = '\r'

/-- The lexemes of one character. -/
def punctuation? : Char → Option Token
  | '[' => some .openArray
  | ']' => some .closeArray
  | '\x7b' => some .openObject
  | '\x7d' => some .closeObject
  | ',' => some .comma
  | ':' => some .colon
  | _ => none

/-- Whether a character belongs to a number or a word. -/
def isWordChar (c : Char) : Bool :=
  c.isAlphanum || c = '-' || c = '+' || c = '.'

/-- Whether digits are a whole part: no zero in front of another digit. -/
def isWholePart : List Char → Bool
  | [] => false
  | ['0'] => true
  | '0' :: _ => false
  | _ :: _ => true

/-- Reads an unsigned number. -/
def number? (negative : Bool) (s : List Char) : Option Json :=
  let p := Number.Decimal.places s
  if !isWholePart p.whole || 4300 < p.whole.length || (p.hasPoint && p.fraction.isEmpty) then none
  else if p.rest.isEmpty && !p.hasPoint then
    let n : Int := Number.ofDigits p.whole
    some (.int (if negative then -n else n))
  else (Number.Decimal.scan? s).map fun d =>
    .float (if negative then -d.toFloat else d.toFloat)

/-- The document that a number or a word stands for. -/
def word? (w : List Char) : Option Json :=
  if w = ['n', 'u', 'l', 'l'] then some .null
  else if w = ['t', 'r', 'u', 'e'] then some (.bool true)
  else if w = ['f', 'a', 'l', 's', 'e'] then some (.bool false)
  else if w = "NaN".toList then some (.float (0.0 / 0.0))
  else if w = "Infinity".toList then some (.float (1.0 / 0.0))
  else if w = "-Infinity".toList then some (.float (-1.0 / 0.0))
  else match w with
    | '-' :: s => number? true s
    | s => number? false s

/-- The value of a hexadecimal digit. -/
def hexValue? (c : Char) : Option Nat :=
  let n := c.toNat
  if 48 ≤ n && n ≤ 57 then some (n - 48)
  else if 65 ≤ n && n ≤ 70 then some (n - 55)
  else if 97 ≤ n && n ≤ 102 then some (n - 87)
  else none

/-- The code unit that four hexadecimal digits stand for. -/
def unit? (a b c d : Char) : Option Nat := do
  let a ← hexValue? a
  let b ← hexValue? b
  let c ← hexValue? c
  let d ← hexValue? d
  some (a * 4096 + b * 256 + c * 16 + d)

/-- The character that a one-letter escape stands for. -/
def escape? : Char → Option Char
  | '\x22' => some '\x22'
  | '\\' => some '\\'
  | '/' => some '/'
  | 'b' => some '\x08'
  | 'f' => some '\x0c'
  | 'n' => some '\n'
  | 'r' => some '\r'
  | 't' => some '\t'
  | _ => none

/-- Where the cutting stands: between lexemes, inside a string, behind the first half of a
surrogate pair in a string, or inside a number or word. Texts are held in reverse. -/
inductive Place where
  | between
  | inText (read : List Char)
  | inPair (high : Nat) (read : List Char)
  | inWord (read : List Char)

/-- Whether a code unit is the first half of a surrogate pair. -/
def isHigh (n : Nat) : Bool := 0xd800 ≤ n && n ≤ 0xdbff

/-- Whether a code unit is the second half of a surrogate pair. -/
def isLow (n : Nat) : Bool := 0xdc00 ≤ n && n ≤ 0xdfff

/-- Cuts a text into lexemes, in reverse behind those in `done`. -/
def tokens (done : List Token) : Place → List Char → Option (List Token)
  | .between, [] => some done
  | .between, c :: s =>
    if isSpace c then tokens done .between s
    else match punctuation? c with
      | some t => tokens (t :: done) .between s
      | none =>
        if c = '\x22' then tokens done (.inText []) s
        else if isWordChar c then tokens done (.inWord [c]) s
        else none
  | .inWord w, [] => (word? w.reverse).map fun v => .scalar v :: done
  | .inWord w, c :: s =>
    if isWordChar c then tokens done (.inWord (c :: w)) s
    else match word? w.reverse with
      | none => none
      | some v =>
        if isSpace c then tokens (.scalar v :: done) .between s
        else match punctuation? c with
          | some t => tokens (t :: .scalar v :: done) .between s
          | none => none
  | .inText _, [] => none
  | .inText r, '\\' :: 'u' :: a :: b :: c :: d :: s =>
    match unit? a b c d with
    | none => none
    | some n =>
      if isHigh n then tokens done (.inPair n r) s
      else if isLow n then none
      else tokens done (.inText (Char.ofNat n :: r)) s
  | .inText r, '\\' :: e :: s =>
    match escape? e with
    | some c => tokens done (.inText (c :: r)) s
    | none => none
  | .inText r, c :: s =>
    if c = '\x22' then tokens (.text (String.ofList r.reverse) :: done) .between s
    else if c = '\\' || c.toNat < 0x20 then none
    else tokens done (.inText (c :: r)) s
  | .inPair high r, '\\' :: 'u' :: a :: b :: c :: d :: s =>
    match unit? a b c d with
    | none => none
    | some low =>
      if isLow low then
        let n := 0x10000 + (high - 0xd800) * 0x400 + (low - 0xdc00)
        tokens done (.inText (Char.ofNat n :: r)) s
      else none
  | .inPair _ _, _ => none

/-- A container that is not closed yet: the items of an array in reverse, or the fields of an
object and the key whose value comes next. -/
inductive Frame where
  | array (items : List Json)
  | object (fields : List (String × Json)) (key : String)

mutual

/-- Reads a document where one must start. `room`: how many more containers may be opened. -/
def value? (room : Nat) (stack : List Frame) : List Token → Option Json
  | .scalar v :: ts => after? room v stack ts
  | .text s :: ts => after? room (.str s) stack ts
  | .openArray :: .closeArray :: ts => after? room (.arr []) stack ts
  | .openObject :: .closeObject :: ts => after? room (.obj []) stack ts
  | .openArray :: ts => if room = 0 then none else value? (room - 1) (.array [] :: stack) ts
  | .openObject :: .text k :: .colon :: ts =>
    if room = 0 then none else value? (room - 1) (.object [] k :: stack) ts
  | _ => none

/-- Goes on behind a document: it is the whole text, or the next item of the innermost open
container. -/
def after? (room : Nat) (v : Json) : List Frame → List Token → Option Json
  | [], [] => some v
  | .array items :: stack, .comma :: ts => value? room (.array (v :: items) :: stack) ts
  | .array items :: stack, .closeArray :: ts =>
    after? (room + 1) (.arr (v :: items).reverse) stack ts
  | .object fields key :: stack, .comma :: .text k :: .colon :: ts =>
    value? room (.object (insert key v fields) k :: stack) ts
  | .object fields key :: stack, .closeObject :: ts =>
    after? (room + 1) (.obj (insert key v fields)) stack ts
  | _, _ => none

end

/-- The document that a text is. `depth`: how many containers that are not empty may stand inside
one another. -/
def read? (s : List Char) (depth : Nat := 200) : Option Json :=
  (tokens [] .between s).bind fun ts => value? depth [] ts.reverse

end Bearer.Json
