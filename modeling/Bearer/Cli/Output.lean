import Bearer.Json.Writer
import Bearer.Report.Basic
import Bearer.Token.Basic

/-!
# Output of commands

A command writes named fields: one on a line, with its name in front, or all of them as a JSON
object. On a line an absent value is `None`, and a list of scopes is a text with spaces between, or
`(none)` if it is empty.
-/
namespace Bearer.Cli

/-- Named fields. -/
abbrev Fields := List (String × Json)

/-- A value on a line. -/
def valueText : Json → String
  | .str s => s
  | .null => "None"
  | .arr items =>
    let text := Scope.joinTexts (items.filterMap Json.text?)
    if text.isEmpty then "(none)" else text
  | v => v.write .compact

/-- Fields, each on a line. -/
def lines (fields : Fields) : String :=
  String.join (fields.map fun f => f.1 ++ ": " ++ valueText f.2 ++ "\n")

/-- Fields as they are written. -/
def output (asJson : Bool) (fields : Fields) : String :=
  if asJson then Json.pretty 0 (.obj fields) ++ "\n" else lines fields

/-- A span in whole seconds, if there is one. -/
def secondsField (s : Option Time.Span) : Json :=
  Report.of (s.map Time.Span.wholeSeconds)

/-- The fields of a token; `rest` is what remains of its lifetime. -/
def tokenFields {τ : Type} (t : Token τ) (rest : Option Time.Span) : Fields :=
  [("token_type", Report.of t.typeName), ("access_token", Report.of t.accessToken),
    ("refresh_token", Report.of t.refreshToken), ("client_id", Report.of t.clientId),
    ("login", Report.of t.login), ("user_id", Report.of t.userId),
    ("scopes", Report.of t.scopes), ("expires_in", secondsField rest)]

end Bearer.Cli
