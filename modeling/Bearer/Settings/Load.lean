import Bearer.Payload.Values
import Bearer.Settings.Basic
import Bearer.Settings.DotEnv
import Bearer.Text.Letters

/-!
# Loading the settings

A setting is looked for among the values given by the caller, then among the variables of the
surroundings, then in the environment file, and otherwise has its default. A variable is named
`TWITCH_` and the name of the setting, in any case; of two such variables the later one counts.
Whatever is found must be a proper value: every setting that is not is reported, in a fixed order.

A flag is a boolean, the number one or zero, or a word for yes or no. A number may be a text; the
time to wait must be above zero. The root is given a slash at its end, and the names of the level
and the format may be in any case.
-/
namespace Bearer.Settings

open Payload (Reading Defect)

/-- Where settings come from. -/
structure Sources where
  /-- The values given by the caller. -/
  given : List (String × Json) := []
  /-- The variables of the surroundings. -/
  vars : List (String × String) := []
  /-- The text of the environment file, if there is one. -/
  file : Option String := none

/-- The last value among variables whose name is `name` in lower case. -/
def lastValue? (name : String) (vars : List DotEnv.Variable) : Option String :=
  ((vars.reverse.find? fun v => Text.lower v.1 == name).bind (·.2))

/-- The variables of the surroundings, each with a value. -/
def Sources.outer (src : Sources) : List DotEnv.Variable :=
  src.vars.map fun v => (v.1, some v.2)

/-- The value of a setting, if any source has one. -/
def Sources.find? (src : Sources) (name : String) : Option Json :=
  match Json.lookup? name src.given with
  | some v => some v
  | none =>
    match lastValue? ("twitch_" ++ name) src.outer with
    | some s => some (.str s)
    | none =>
      (src.file.bind fun f => lastValue? ("twitch_" ++ name) (DotEnv.read src.outer f)).map .str

/-! ## Values -/

/-- Whether two texts are equal but for the case of ASCII letters. -/
def sameLetters (s t : String) : Bool :=
  s.toList.map Char.toLower == t.toList.map Char.toLower

/-- A flag. -/
def flag : Json → Reading Bool
  | .bool b => .done b
  | .int n => if Payload.isShort n then ofNumber n else .fail .notFlag
  | .float x =>
    match Number.Binary.ofFloat? x with
    | some b =>
      if b.isWhole && b.truncate.natAbs < Nat.pow 2 63 then ofNumber b.truncate else .fail .notFlag
    | none => .fail .notFlag
  | .str s =>
    if ["1", "t", "y", "on", "yes", "true"].any (sameLetters s) then .done true
    else if ["0", "f", "n", "no", "off", "false"].any (sameLetters s) then .done false
    else .fail .flagUnreadable
  | _ => .fail .notFlag
where
  /-- A flag given as a number. -/
  ofNumber (n : Int) : Reading Bool :=
    if n = 0 then .done false else if n = 1 then .done true else .fail .flagUnreadable

/-- The number that a text stands for: blanks round it do not count, nor, if it has none, single
underscores inside it. -/
def numberOfText? (s : List Char) : Option Float :=
  match Number.float? (Payload.trimNumber s) with
  | some x => some x
  | none =>
    if s.contains '_' && Payload.dropUnderscores s != s then
      Number.float? (Payload.dropUnderscores s)
    else none

/-- A number. -/
def number : Json → Reading Float
  | .float x => .done x
  | .int n =>
    if Payload.isBeyondFloat n then .fail .notNumber
    else
      let x := Float.ofScientific n.natAbs false 0
      .done (if n < 0 then -x else x)
  | .bool b => .done (if b then 1.0 else 0.0)
  | .str s =>
    match numberOfText? s.toList with
    | some x => .done x
    | none => .fail .numberUnreadable
  | _ => .fail .notNumber

/-- A time to wait. -/
def timeout (v : Json) : Reading Float :=
  (number v).bind fun x => if 0.0 < x then .done x else .fail .notAbove

/-- A root, given a slash at its end. -/
def rootText (v : Json) : Reading String :=
  (Payload.text v).map fun s => if s.toList.getLast? = some '/' then s else s ++ "/"

/-- A level by its name. -/
def level (v : Json) : Reading Logging.Level :=
  (Payload.text v).bind fun s =>
    match Logging.Level.ofName? (Text.upper s) with
    | some l => .done l
    | none => .fail (.refused ("Invalid log level: " ++ s))

/-- A format by its name. -/
def format (v : Json) : Reading Logging.Format :=
  (Payload.text v).bind fun s =>
    match Logging.Format.ofName? (Text.lower s) with
    | some f => .done f
    | none =>
      .fail (.refused ("Invalid log format: " ++ s ++ ". Must be 'text' or 'json'"))

/-! ## All settings -/

/-- A setting, or its default if no source has it. -/
def setting {α : Type} (src : Sources) (name : String) (read : Json → Reading α) (default : α) :
    Reading α :=
  match src.find? name with
  | some v => (read v).under (.key name)
  | none => .done default

/-- Reads all settings. -/
def read (src : Sources) : Reading Settings :=
  let text := Payload.nullable Payload.text
  let d : Settings := {}
  Settings.mk <$> setting src "oauth2_url" rootText d.root
    <*> setting src "oauth2_auth_url" text none
    <*> setting src "oauth2_token_url" text none
    <*> setting src "oauth2_validate_url" text none
    <*> setting src "oauth2_revoke_url" text none
    <*> setting src "oauth2_device_url" text none
    <*> setting src "mock_api" flag d.mockApi
    <*> setting src "http_timeout" timeout d.httpTimeout
    <*> setting src "user_agent" Payload.text d.userAgent
    <*> setting src "log_level" level d.logLevel
    <*> setting src "log_format" format d.logFormat
    <*> setting src "log_file" text none

/-- The settings, or the problems with them. -/
def load (src : Sources) : Except (List Payload.Problem) Settings :=
  match read src with
  | .done s => .ok s
  | .faulty ps => .error ps
  | .broken _ => .error []

end Bearer.Settings
