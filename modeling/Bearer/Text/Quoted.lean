import Bearer.Text.Printable

/-!
# Quoted text

Text shown inside a message is put between quotes: single quotes, unless it holds a single and no
double quote. The quote in use and the backslash are escaped, as are line feed, carriage return
and tab; any other character that is not printable is written by its code point, in two, four or
eight hexadecimal digits.

* `quoteMark_cases`: the mark is one of the two quotes.
-/
namespace Bearer.Text

/-- The `width` lowest hexadecimal digits of `n`, most significant first, in lower case. -/
def hexDigits (width : Nat) (n : Nat) : List Char :=
  ((List.range width).map fun i => Nat.digitChar (n / Nat.pow 16 i % 16)).reverse

@[simp] theorem length_hexDigits (width n : Nat) : (hexDigits width n).length = width := by
  simp [hexDigits]

/-- The quote that `quoted` puts round a text. -/
def quoteMark (s : List Char) : Char :=
  if s.contains '\x27' && !s.contains '\x22' then '\x22' else '\x27'

theorem quoteMark_cases (s : List Char) : quoteMark s = '\x27' ∨ quoteMark s = '\x22' := by
  unfold quoteMark; split <;> simp

/-- One character of a text quoted with `mark`. -/
def quotedChar (mark c : Char) : List Char :=
  if c = mark || c = '\\' then ['\\', c]
  else if c = '\n' then ['\\', 'n']
  else if c = '\r' then ['\\', 'r']
  else if c = '\t' then ['\\', 't']
  else if isPrintable c then [c]
  else if c.toNat < 0x100 then '\\' :: 'x' :: hexDigits 2 c.toNat
  else if c.toNat < 0x10000 then '\\' :: 'u' :: hexDigits 4 c.toNat
  else '\\' :: 'U' :: hexDigits 8 c.toNat

/-- The quoted form of a text. -/
def quoted (s : String) : String :=
  let cs := s.toList
  let mark := quoteMark cs
  String.ofList (mark :: cs.flatMap (quotedChar mark) ++ [mark])

end Bearer.Text
