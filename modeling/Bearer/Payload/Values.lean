import Bearer.Credential.Basic
import Bearer.Json.Equality
import Bearer.Number.Decimal
import Bearer.Payload.Reading
import Bearer.Scope.Wire
import Bearer.Time.Duration

/-!
# Values of fields

How whole numbers, spans, credentials and scope lists are read. Data comes out of a document that
has just been parsed, or it has been in memory before; a few rules depend on that.

A whole number may also be a boolean, a float without a fraction, or a text of digits: with a sign,
zeros in front, single underscores between digits, and a point with zeros behind it. A span is a
number of seconds or a text. A list of scopes may be an array, or one text with spaces between; the
array that holds only an empty text, and a text of spaces, mean that there is none.
-/
namespace Bearer.Payload

/-- Where data comes from. -/
inductive Source where
  | document
  | memory
deriving DecidableEq, Repr

/-! ## Whole numbers -/

/-- Whether a character is blank in numbers. Unlike elsewhere, the separators among the controls
are not. -/
def isNumberBlank (c : Char) : Bool :=
  let n := c.toNat
  (9 ≤ n && n ≤ 13) || n == 32 || n == 0x85 || n == 0xa0 || n == 0x1680 ||
    (0x2000 ≤ n && n ≤ 0x200a) || n == 0x2028 || n == 0x2029 || n == 0x202f || n == 0x205f ||
    n == 0x3000

/-- A text without the blanks round a number. -/
def trimNumber (s : List Char) : List Char :=
  ((s.dropWhile isNumberBlank).reverse.dropWhile isNumberBlank).reverse

/-- Drops the zeros in front of the first other digit, and underscores among them. A number of
zeros only keeps one. -/
def dropZeros? : List Char → Option (List Char)
  | '0' :: s => go '0' s
  | c :: s => if Number.isDigit c then some (c :: s) else none
  | [] => none
where
  /-- Goes on behind a zero or an underscore. -/
  go (last : Char) : List Char → Option (List Char)
    | [] => some [last]
    | c :: s =>
      if c = '0' || c = '_' then go c s
      else if Number.isDigit c then some (c :: s)
      else if c = '.' then some (last :: c :: s)
      else none

/-- Drops a point behind which zeros stand and nothing else. -/
def dropFraction (s : List Char) : List Char :=
  match s.dropWhile (· != '.') with
  | _ :: zeros =>
    if !zeros.isEmpty && zeros.all (· == '0') then s.takeWhile (· != '.') else s
  | [] => s

/-- Whether two underscores stand next to each other. -/
def hasDouble : List Char → Bool
  | '_' :: '_' :: _ => true
  | _ :: s => hasDouble s
  | [] => false

/-- Drops single underscores inside a number; one at an end, or two together, stay. -/
def dropUnderscores (s : List Char) : List Char :=
  if s.head? = some '_' || s.getLast? = some '_' || hasDouble s then s
  else s.filter (· != '_')

/-- A number without a sign. -/
def unsigned? (s : List Char) : Option Nat := do
  let digits := dropUnderscores (dropFraction (← dropZeros? s))
  if digits.length ≠ 1 && digits.head? = some '0' then none else Number.digits? digits

/-- The whole number that a text stands for. -/
def wholeOfText? (s : List Char) : Option Int :=
  match trimNumber s with
  | '-' :: s => (unsigned? s).map fun n => -(n : Int)
  | '+' :: s => (unsigned? s).map fun n => (n : Int)
  | s => (unsigned? s).map fun n => (n : Int)

/-- A whole number. -/
def whole : Json → Reading Int
  | .int n => .done n
  | .bool b => .done (if b then 1 else 0)
  | .float x =>
    match Number.Binary.ofFloat? x with
    | none => .fail .notFinite
    | some b =>
      if !b.isWhole then .fail .wholeFromFraction
      else if b.truncate.natAbs < Nat.pow 2 63 then .done b.truncate
      else .fail .wholeTooLong
  | .str s =>
    if 4300 < s.utf8ByteSize then .fail .wholeTooLong
    else match wholeOfText? s.toList with
      | some n => .done n
      | none => .fail .wholeUnreadable
  | _ => .fail .notWhole

/-- A whole number from `low` on and below `high`. -/
def wholeWithin (low high : Int) (v : Json) : Reading Int :=
  (whole v).bind fun n =>
    if n < low then .fail .below else if high ≤ n then .fail .notBelow else .done n

/-! ## Spans -/

/-- The span of the microseconds that a number or a text gave. Reading breaks off where these are no
span. -/
def spanOr (n : Option Int) : Reading Time.Span :=
  match n with
  | none => .fail .spanUnreadable
  | some n =>
    match Time.Span.ofMicros? n with
    | some s => .done s
    | none => .broken .noSpan

/-- Whether a whole number fits 64 bits. -/
def isShort (n : Int) : Bool :=
  -(Nat.pow 2 63 : Int) ≤ n && n < Nat.pow 2 63

/-- Whether a whole number lies beyond the largest float. -/
def isBeyondFloat (n : Int) : Bool :=
  Nat.pow 2 1024 - Nat.pow 2 970 ≤ n.natAbs

/-- A span. In memory a boolean is a number, and a whole number too long for 64 bits is taken for
a float; a document does neither. -/
def span (src : Source) : Json → Reading Time.Span
  | .str s => spanOr (Time.Duration.ofText? s.toList)
  | .float x => spanOr (Time.Duration.ofSeconds? x)
  | .int n =>
    if isShort n then spanOr (Time.Duration.ofWhole? n)
    else if src = .memory && !isBeyondFloat n then .fail .spanUnreadable
    else .fail .notSpan
  | .bool b =>
    if src = .memory then spanOr (Time.Duration.ofWhole? (if b then 1 else 0)) else .fail .notSpan
  | _ => .fail .notSpan

/-! ## Credentials and scopes -/

/-- A value made from a text. In memory it could also be an instance of its type already, and data
that is neither has both problems. -/
def fromText {α : Type} (src : Source) (type maker : String) (make : String → α) :
    Json → Reading α
  | .str s => .done (make s)
  | _ =>
    match src with
    | .document => .fail .notText
    | .memory => .faulty
      [⟨[.key ("is-instance[" ++ type ++ "]")], .notInstance⟩,
        ⟨[.key ("function-after[" ++ maker ++ "(), str]")], .notText⟩]

/-- A credential. -/
def credential (src : Source) (k : CredentialKind) : Json → Reading (Credential k) :=
  fromText src k.name k.name fun s => ⟨s⟩

/-- A scope. -/
def scope (src : Source) : Json → Reading Scope :=
  fromText src "Scope" "parse" fun s => ⟨s⟩

/-- Brings the spellings of a list of scopes to one: an array, or null for none. Objects of no or
several keys are left for the reader of lists to refuse. -/
def normalizeScopes : Json → Except ShapeFault Json
  | .null => .ok .null
  | .str s =>
    match Scope.split? s with
    | some ts => .ok (.arr (ts.map .str))
    | none => .ok .null
  | .arr [.str s] => .ok (if s.isEmpty then .null else .arr [.str s])
  | .arr items => .ok (.arr items)
  | .obj [_] => .error .noFirst
  | .obj fields => .ok (.obj fields)
  | v => .error (.noLength v.kind)

/-- A list of scopes, absent if there are none. -/
def scopes (src : Source) (v : Json) : Reading (Option (List Scope)) :=
  match normalizeScopes v with
  | .error e => .broken e
  | .ok .null => .done none
  | .ok (.arr items) => (Reading.items (scope src) 0 items).map some
  | .ok _ => .fail .notList

end Bearer.Payload
