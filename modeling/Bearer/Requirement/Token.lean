import Bearer.Text.Blank
import Bearer.Text.Quoted

/-!
# Lexemes of requirement texts

A requirement is written in words (letters, digits and `_ : . -`), parentheses and commas, with
blanks anywhere between them. `scan` cuts a text into lexemes, each with the position where it
starts, and a word is as long as it can be. A character that is none of these is refused, the first
one of the text by name.

* `lexeme_mark?`: a lexeme of one character is that character.
-/
namespace Bearer.Requirement

/-- Whether a character may stand in a word. -/
def isWordChar (c : Char) : Bool :=
  let n := c.toNat
  (48 ≤ n && n ≤ 57) || (65 ≤ n && n ≤ 90) || (97 ≤ n && n ≤ 122) || c = '_' || c = ':' ||
    c = '.' || c = '-'

/-- A lexeme. -/
inductive Token where
  | word (w : List Char)
  | lparen
  | rparen
  | comma
deriving DecidableEq, Repr

/-- The text of a lexeme. -/
def Token.lexeme : Token → List Char
  | .word w => w
  | .lparen => ['(']
  | .rparen => [')']
  | .comma => [',']

/-- The lexeme that a character is by itself. -/
def Token.mark? (c : Char) : Option Token :=
  if c = '(' then some .lparen
  else if c = ')' then some .rparen
  else if c = ',' then some .comma
  else none

theorem Token.lexeme_mark? {c : Char} {t : Token} (h : mark? c = some t) : t.lexeme = [c] := by
  unfold mark? at h
  repeat' split at h
  all_goals cases h
  all_goals simp_all [lexeme]

/-- A lexeme and the position of its first character in the text. -/
structure Placed where
  /-- The lexeme. -/
  token : Token
  /-- Its position, counted in characters from zero. -/
  position : Nat
deriving DecidableEq, Repr

/-- Why a text is no requirement. -/
inductive SyntaxFault where
  /-- A character that belongs to no lexeme. -/
  | character (c : Char) (position : Nat)
  /-- The text ends inside a group. -/
  | endOfText
  /-- A comma must stand here. -/
  | commaExpected (position : Nat) (found : Token)
  /-- A scope or a group must stand here. -/
  | partExpected (position : Nat) (found : Token)
  /-- A negation of several requirements or of none. -/
  | negationOf (count position : Nat)
  /-- A group of a name that there is not. -/
  | unknownGroup (name : List Char) (position : Nat)
deriving DecidableEq, Repr

/-- The wording of a fault in a text. -/
def SyntaxFault.message (text : String) : SyntaxFault → String
  | .character c p =>
    "Unexpected character " ++ Text.quoted c.toString ++ " at position " ++ toString p
  | .endOfText => "Unexpected end of expression in " ++ Text.quoted text
  | .commaExpected p t =>
    "Expected ',' at position " ++ toString p ++ ", found " ++
      Text.quoted (String.ofList t.lexeme)
  | .partExpected p t =>
    "Expected a scope or group at position " ++ toString p ++ ", found " ++
      Text.quoted (String.ofList t.lexeme)
  | .negationOf n p =>
    "not() at position " ++ toString p ++ " takes exactly one expression, got " ++ toString n
  | .unknownGroup name p =>
    "Unknown group " ++ Text.quoted (String.ofList name) ++ " at position " ++ toString p ++
      "; expected all, any or not"

/-- Cuts a text into lexemes. `position`: where the text starts. -/
def scan (position : Nat) : List Char → Except SyntaxFault (List Placed)
  | [] => .ok []
  | c :: s =>
    if Text.isBlank c then scan (position + 1) s
    else match Token.mark? c with
      | some t =>
        match scan (position + 1) s with
        | .ok ts => .ok (⟨t, position⟩ :: ts)
        | .error e => .error e
      | none =>
        if isWordChar c then
          let w := c :: s.takeWhile isWordChar
          match scan (position + w.length) (s.dropWhile isWordChar) with
          | .ok ts => .ok (⟨.word w, position⟩ :: ts)
          | .error e => .error e
        else .error (.character c position)
termination_by s => s.length
decreasing_by
  · simp
  · simp
  · exact Nat.lt_succ_of_le (List.dropWhile_sublist isWordChar).length_le

end Bearer.Requirement
