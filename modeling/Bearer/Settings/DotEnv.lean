import Bearer.Text.Blank

/-!
# Environment files

An environment file sets one variable a line: a name, `=`, and a value. `export` may stand in front,
`#` starts a comment, and a value may stand in single or double quotes, then it may run over lines
and holds escapes. A name without `=` is a variable without a value. A line that is none of these is
skipped, and a mark of the byte order in front of the file does not count. In a value, `${NAME}` and
`${NAME:-default}` stand for another variable: one set further up in the file, else one of the
surroundings, else the default.
-/
namespace Bearer.DotEnv

/-- Whether a character ends a line. -/
def isBreak (c : Char) : Bool := c = '\n' || c = '\r'

/-- Whether a character is blank but does not end a line. -/
def isGap (c : Char) : Bool := Text.isBlank c && !isBreak c

/-- Every line break as a line feed. -/
def normalizeBreaks : List Char → List Char
  | '\r' :: '\n' :: s => '\n' :: normalizeBreaks s
  | '\r' :: s => '\n' :: normalizeBreaks s
  | c :: s => c :: normalizeBreaks s
  | [] => []

/-- What stands behind an escape in double quotes; the escape itself if it means nothing. -/
def unescapeDouble : List Char → List Char
  | '\\' :: c :: s =>
    (match c with
      | '\\' => ['\\']
      | '\x27' => ['\x27']
      | '\x22' => ['\x22']
      | 'a' => ['\x07']
      | 'b' => ['\x08']
      | 'f' => ['\x0c']
      | 'n' => ['\n']
      | 'r' => ['\r']
      | 't' => ['\t']
      | 'v' => ['\x0b']
      | c => ['\\', c]) ++ unescapeDouble s
  | c :: s => c :: unescapeDouble s
  | [] => []

/-- What stands behind an escape in single quotes. -/
def unescapeSingle : List Char → List Char
  | '\\' :: '\\' :: s => '\\' :: unescapeSingle s
  | '\\' :: '\x27' :: s => '\x27' :: unescapeSingle s
  | c :: s => c :: unescapeSingle s
  | [] => []

/-- The text up to a quote, in reverse, and what follows the quote. A backslash and the character
behind it stay together, so that a quote behind a backslash does not close; behind a backslash there
must be a character of the same line. -/
def upToQuote (quote : Char) (read : List Char) : List Char → Option (List Char × List Char)
  | [] | ['\\'] => none
  | '\\' :: c :: s => if c = '\n' then none else upToQuote quote (c :: '\\' :: read) s
  | c :: s => if c = quote then some (read, s) else upToQuote quote (c :: read) s

/-- A value in quotes, and what follows. -/
def quotedValue? (quote : Char) (s : List Char) : Option (List Char × List Char) :=
  (upToQuote quote [] s).map fun r =>
    (if quote = '\x22' then unescapeDouble r.1.reverse else unescapeSingle r.1.reverse, r.2)

/-- Cuts a value at the first blanks that a `#` follows. -/
def cutComment : List Char → List Char
  | [] => []
  | c :: s =>
    if Text.isBlank c && ((c :: s).dropWhile Text.isBlank).head? = some '#' then []
    else c :: cutComment s

/-- A value without quotes, and what follows. -/
def plainValue (s : List Char) : List Char × List Char :=
  (Text.trimRight (cutComment (s.takeWhile fun c => !isBreak c)), s.dropWhile fun c => !isBreak c)

/-- A value, and what follows. -/
def value? : List Char → Option (List Char × List Char)
  | [] => some ([], [])
  | c :: s =>
    if c = '\x27' || c = '\x22' then quotedValue? c s
    else if isBreak c then some ([], c :: s)
    else some (plainValue (c :: s))

/-- What a line of the file sets. -/
structure Binding where
  /-- The name. -/
  name : List Char
  /-- The value, if there is one. -/
  value : Option (List Char)

/-- The rest of a text behind the end of its first line. -/
def dropLine (s : List Char) : List Char :=
  (s.dropWhile fun c => !isBreak c).drop 1

/-- The end of a line, with a comment or without; what follows it. -/
def lineEnd? (s : List Char) : Option (List Char) :=
  let t := s.dropWhile isGap
  match t with
  | [] => some []
  | c :: u =>
    if isBreak c then some u
    else if c = '#' then some (dropLine t)
    else none

/-- Drops the word `export` and the gap behind it. -/
def dropExport : List Char → List Char
  | 'e' :: 'x' :: 'p' :: 'o' :: 'r' :: 't' :: c :: s =>
    if isGap c then s.dropWhile isGap else 'e' :: 'x' :: 'p' :: 'o' :: 'r' :: 't' :: c :: s
  | s => s

/-- Whether a character may stand in a name without quotes. -/
def isNameChar (c : Char) : Bool :=
  c != '=' && c != '#' && !Text.isBlank c

/-- A name, and what follows: absent as a name in front of a comment, none at all if no name
stands here. -/
def name? : List Char → Option (Option (List Char) × List Char)
  | '#' :: s => some (none, '#' :: s)
  | '\x27' :: s =>
    match s.dropWhile (· != '\x27') with
    | _ :: rest => if s.head? = some '\x27' then none else some (some (s.takeWhile (· != '\x27')), rest)
    | [] => none
  | s =>
    let w := s.takeWhile isNameChar
    if w.isEmpty then none else some (some w, s.dropWhile isNameChar)

/-- What the value behind a name is, and what follows; a name need not have one. A comment may stand
in place of a value, with a gap in front of it. -/
def valuePart? (s : List Char) : Option (Option (List Char) × List Char) :=
  match s.dropWhile isGap with
  | '=' :: t =>
    let u := t.dropWhile isGap
    if u.head? = some '#' && u.length < t.length then some (some [], u)
    else (value? u).map fun r => (some r.1, r.2)
  | t => some (none, t)

/-- The binding at the front of a text, if its line is one, and what follows the line. -/
def binding (s : List Char) : Option Binding × List Char :=
  let start := dropExport s
  match name? start with
  | none => (none, dropLine start)
  | some (name, afterName) =>
    match valuePart? afterName with
    | none => (none, dropLine ((afterName.dropWhile isGap).drop 1))
    | some (value, afterValue) =>
      match lineEnd? afterValue with
      | none => (none, dropLine afterValue)
      | some rest => (name.map fun n => ⟨n, value⟩, rest)

/-- The bindings of a text in their order. -/
def bindings (s : List Char) : List Binding :=
  let t := s.dropWhile Text.isBlank
  if t.isEmpty then []
  else
    let (b, rest) := binding t
    if _h : rest.length < s.length then b.toList ++ bindings rest else b.toList
termination_by s.length

/-- A variable and its value, if it has one. -/
abbrev Variable := String × Option String

/-- The value of a variable: the last one set. -/
def find? (name : String) (vars : List Variable) : Option (Option String) :=
  (vars.reverse.find? fun v => v.1 == name).map (·.2)

/-- Sets a variable; one that is set again stays in its place. -/
def put (name : String) (value : Option String) : List Variable → List Variable
  | [] => [(name, value)]
  | v :: vars => if v.1 = name then (name, value) :: vars else v :: put name value vars

/-- What a reference `${…}` with the given inside stands for. -/
def resolve (vars : List Variable) (inside : List Char) : List Char :=
  let name := inside.takeWhile (· != ':')
  let default :=
    match inside.dropWhile (· != ':') with
    | ':' :: '-' :: d => d
    | _ => []
  match find? (String.ofList name) vars with
  | some (some v) => v.toList
  | some none => []
  | none => default

/-- Whether the inside of a reference is well formed: a name, or a name and a default. -/
def isReference (inside : List Char) : Bool :=
  match inside.dropWhile (· != ':') with
  | [] => true
  | ':' :: '-' :: _ => true
  | _ => false

/-- A value with its references resolved. -/
def expand (vars : List Variable) : List Char → List Char
  | [] => []
  | '$' :: '\x7b' :: u =>
    let inside := u.takeWhile (· != '\x7d')
    if u.contains '\x7d' && isReference inside then
      resolve vars inside ++ expand vars ((u.dropWhile (· != '\x7d')).drop 1)
    else '$' :: expand vars ('\x7b' :: u)
  | c :: s => c :: expand vars s
termination_by s => s.length
decreasing_by
  · have := (List.dropWhile_sublist (l := u) (· != '\x7d')).length_le
    simp only [List.length_drop, List.length_cons]
    omega
  · simp
  · simp

/-- A text without the mark of the byte order in front of it. -/
def dropMark : List Char → List Char
  | '\ufeff' :: s => s
  | s => s

/-- The variables that a file sets, in the order in which they were first set. `outer`: the
variables of the surroundings. -/
def read (outer : List Variable) (file : String) : List Variable :=
  (bindings (normalizeBreaks (dropMark file.toList))).foldl (fun vars b =>
    put (String.ofList b.name)
      (b.value.map fun v => String.ofList (expand (outer ++ vars) v)) vars) []

end Bearer.DotEnv
