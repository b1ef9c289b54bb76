import Bearer.Json.Value
import Bearer.Number.Shortest
import Bearer.Text.Quoted

/-!
# Writing JSON

Documents are written on one line, by a `Style` that says how items are separated and whether
characters outside ASCII are escaped, or spread over lines with an indentation of two spaces.
-/
namespace Bearer.Json

/-- How a document is written on one line. -/
structure Style where
  /-- What stands between items. -/
  comma : String
  /-- What stands between a key and its value. -/
  colon : String
  /-- Whether everything outside printable ASCII is escaped. -/
  asciiOnly : Bool

/-- Without any blanks. -/
def Style.compact : Style := ⟨",", ":", false⟩

/-- For lines of a log: a blank behind each separator, and ASCII only. -/
def Style.line : Style := ⟨", ", ": ", true⟩

/-- A code unit as an escape. -/
def unitEscape (n : Nat) : List Char :=
  '\\' :: 'u' :: Text.hexDigits 4 n

/-- One character inside a string. -/
def stringChar (asciiOnly : Bool) (c : Char) : List Char :=
  let n := c.toNat
  if c = '\x22' || c = '\\' then ['\\', c]
  else if n = 8 then ['\\', 'b']
  else if n = 9 then ['\\', 't']
  else if n = 10 then ['\\', 'n']
  else if n = 12 then ['\\', 'f']
  else if n = 13 then ['\\', 'r']
  else if n < 0x20 then unitEscape n
  else if asciiOnly && 0x7f ≤ n then
    if n < 0x10000 then unitEscape n
    else unitEscape (0xd800 + (n - 0x10000) / 0x400) ++ unitEscape (0xdc00 + (n - 0x10000) % 0x400)
  else [c]

/-- A string with its quotes. -/
def stringText (asciiOnly : Bool) (s : String) : String :=
  String.ofList ('\x22' :: s.toList.flatMap (stringChar asciiOnly) ++ ['\x22'])

/-- A float. -/
def numberText (x : Float) : String :=
  if x.isNaN then "NaN"
  else if x.isInf then (if x < 0.0 then "-Infinity" else "Infinity")
  else Number.floatText x

mutual

/-- A document on one line. -/
def write (st : Style) : Json → String
  | .null => "null"
  | .bool true => "true"
  | .bool false => "false"
  | .int n => toString n
  | .float x => numberText x
  | .str s => stringText st.asciiOnly s
  | .arr items => "[" ++ st.comma.intercalate (writeItems st items) ++ "]"
  | .obj fields => "\x7b" ++ st.comma.intercalate (writeFields st fields) ++ "\x7d"

/-- The items of an array. -/
def writeItems (st : Style) : List Json → List String
  | [] => []
  | v :: items => write st v :: writeItems st items

/-- The fields of an object. -/
def writeFields (st : Style) : List (String × Json) → List String
  | [] => []
  | (k, v) :: fields =>
    (stringText st.asciiOnly k ++ st.colon ++ write st v) :: writeFields st fields

end

/-- The line break and indentation in front of an item at a depth. -/
def indent (depth : Nat) : String :=
  String.ofList ('\n' :: List.replicate (2 * depth) ' ')

/-- Items between brackets, each on its own line. -/
def block (opening closing : String) (depth : Nat) (items : List String) : String :=
  if items.isEmpty then opening ++ closing
  else opening ++ indent (depth + 1) ++ ("," ++ indent (depth + 1)).intercalate items ++
    indent depth ++ closing

mutual

/-- A document spread over lines. -/
def pretty (depth : Nat) : Json → String
  | .arr items => block "[" "]" depth (prettyItems (depth + 1) items)
  | .obj fields => block "\x7b" "\x7d" depth (prettyFields (depth + 1) fields)
  | .null => "null"
  | .bool true => "true"
  | .bool false => "false"
  | .int n => toString n
  | .float x => numberText x
  | .str s => stringText false s

/-- The items of an array, spread over lines. -/
def prettyItems (depth : Nat) : List Json → List String
  | [] => []
  | v :: items => pretty depth v :: prettyItems depth items

/-- The fields of an object, spread over lines. -/
def prettyFields (depth : Nat) : List (String × Json) → List String
  | [] => []
  | (k, v) :: fields =>
    (stringText false k ++ ": " ++ pretty depth v) :: prettyFields depth fields

end

end Bearer.Json
