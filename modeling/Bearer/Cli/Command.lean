import Bearer.Cli.Options
import Bearer.Credential.Basic
import Bearer.Requirement.Parser

/-!
# Commands

A command line names a command and gives it options and operands. The credentials of the client and
the redirect URL may come from variables instead, if those are not empty. A requirement must be one,
or the command is not run.

* `read_checkScopes`: how the command that compares scopes is read.
-/
namespace Bearer.Cli

/-- A variable and its value. -/
abbrev Variables := List (String × String)

/-- A command with all it needs. -/
inductive Command where
  /-- Get a token for the client. -/
  | appToken (client : ClientId) (secret : ClientSecret) (scopes : List Scope) (asJson : Bool)
  /-- Validate a token, and compare it with a requirement. -/
  | validate (token : AccessToken) (require : Option Requirement) (asJson : Bool)
  /-- Revoke a token. -/
  | revoke (token : AccessToken) (client : ClientId)
  /-- Refresh a token. -/
  | refresh (token : RefreshToken) (client : ClientId) (secret : Option ClientSecret)
    (asJson : Bool)
  /-- Get a token for a user by a redirect. -/
  | authFlow (client : ClientId) (secret : ClientSecret) (redirectUrl : String)
    (scopes : List Scope) (forceVerify asJson : Bool)
  /-- Get a token for a user by a code. -/
  | deviceFlow (client : ClientId) (secret : Option ClientSecret) (scopes : List Scope)
    (asJson : Bool)
  /-- Compare scopes with a requirement. -/
  | checkScopes (require : Requirement) (scopes : List Scope)

/-- Why there is no command to run. -/
inductive Usage where
  /-- Help is asked for. -/
  | help
  /-- No command is named. -/
  | noCommand
  /-- There is no such command. -/
  | unknownCommand (name : String)
  /-- The arguments cannot be read. -/
  | options (fault : OptionFault)
  /-- An option or operand is missing. -/
  | missing (name : String)
  /-- There are more operands than the command takes. -/
  | extra (operand : String)
  /-- A text is no requirement. -/
  | requirement (error : Requirement.SyntaxError)
deriving DecidableEq, Repr

/-! ## Options -/

/-- Asks for help. -/
def helpSwitch : Switch := ⟨"--help", none, false⟩

/-- The id of the client. -/
def clientIdSwitch : Switch := ⟨"--client-id", none, true⟩

/-- The secret of the client. -/
def clientSecretSwitch : Switch := ⟨"--client-secret", none, true⟩

/-- A scope to ask for. -/
def scopeSwitch : Switch := ⟨"--scope", some 's', true⟩

/-- Asks for JSON. -/
def jsonSwitch : Switch := ⟨"--json", none, false⟩

/-- A requirement. -/
def requireSwitch : Switch := ⟨"--require", some 'r', true⟩

/-- Where the user is redirected to. -/
def redirectSwitch : Switch := ⟨"--redirect-url", none, true⟩

/-- Makes the user approve the client again. -/
def forceSwitch : Switch := ⟨"--force-verify", none, false⟩

/-- The commands and their options. -/
def catalogue : List (String × List Switch) :=
  [("app-token", [clientIdSwitch, clientSecretSwitch, scopeSwitch, jsonSwitch]),
    ("validate", [requireSwitch, jsonSwitch]),
    ("revoke", [clientIdSwitch]),
    ("refresh", [clientIdSwitch, clientSecretSwitch, jsonSwitch]),
    ("auth-flow",
      [clientIdSwitch, clientSecretSwitch, redirectSwitch, scopeSwitch, forceSwitch, jsonSwitch]),
    ("device-flow", [clientIdSwitch, clientSecretSwitch, scopeSwitch, jsonSwitch]),
    ("check-scopes", [])]

/-- The options of a command, if there is such a command. -/
def switches? (name : String) : Option (List Switch) :=
  (catalogue.find? fun c => c.1 = name).map (·.2)

/-- The command that a command line names, and its arguments. -/
def split (args : List String) : Except Usage (String × List String) :=
  match scan [helpSwitch] false {} args with
  | .error e => .error (.options e)
  | .ok g =>
    if g.has helpSwitch.name then .error .help
    else match g.operands with
      | [] => .error .noCommand
      | name :: rest => if (switches? name).isSome then .ok (name, rest) else .error (.unknownCommand name)

/-! ## Reading -/

/-- The value of an option or else of a variable that is not empty. -/
def valueOr (vars : Variables) (g : Given) (s : Switch) (variableName : String) : Option String :=
  match g.last? s.name with
  | some v => some v
  | none => ((vars.reverse.find? fun v => v.1 = variableName).map (·.2)).filter (!·.isEmpty)

/-- What must be there. -/
def needed (name : String) : Option String → Except Usage String
  | some s => .ok s
  | none => .error (.missing name)

/-- The id of the client. -/
def clientId (vars : Variables) (g : Given) : Except Usage ClientId :=
  (needed "--client-id" (valueOr vars g clientIdSwitch "TWITCH_CLIENT_ID")).map (⟨·⟩)

/-- The secret of the client, if it has one. -/
def clientSecret? (vars : Variables) (g : Given) : Option String :=
  valueOr vars g clientSecretSwitch "TWITCH_CLIENT_SECRET"

/-- The secret of a client that must have one. -/
def clientSecret (vars : Variables) (g : Given) : Except Usage ClientSecret :=
  (needed "--client-secret" (clientSecret? vars g)).map (⟨·⟩)

/-- The secret of a client that may be public; an empty one is none. -/
def optionalSecret (vars : Variables) (g : Given) : Option ClientSecret :=
  ((clientSecret? vars g).filter (!·.isEmpty)).map (⟨·⟩)

/-- The scopes to ask for. -/
def scopes (g : Given) : List Scope :=
  (g.all scopeSwitch.name).map (⟨·⟩)

/-- The requirement that a text is. -/
def requirement (text : String) : Except Usage Requirement :=
  (Requirement.parse text).mapError .requirement

/-- The only operand. -/
def only (name : String) (g : Given) : Except Usage String :=
  match g.operands with
  | [] => .error (.missing name)
  | [o] => .ok o
  | _ :: o :: _ => .error (.extra o)

/-- No operands. -/
def noOperands (g : Given) : Except Usage Unit :=
  match g.operands with
  | [] => .ok ()
  | o :: _ => .error (.extra o)

/-- Makes a command of what is given to it. -/
def make (vars : Variables) (name : String) (g : Given) : Except Usage Command := do
  let asJson := g.has jsonSwitch.name
  match name with
  | "app-token" =>
    noOperands g
    return .appToken (← clientId vars g) (← clientSecret vars g) (scopes g) asJson
  | "validate" =>
    let token ← only "TOKEN" g
    return .validate ⟨token⟩ (← (g.last? requireSwitch.name).mapM requirement) asJson
  | "revoke" =>
    let token ← only "TOKEN" g
    return .revoke ⟨token⟩ (← clientId vars g)
  | "refresh" =>
    let token ← only "REFRESH_TOKEN" g
    return .refresh ⟨token⟩ (← clientId vars g) (optionalSecret vars g) asJson
  | "auth-flow" =>
    noOperands g
    let redirect ← needed "--redirect-url" (valueOr vars g redirectSwitch "TWITCH_REDIRECT_URL")
    return .authFlow (← clientId vars g) (← clientSecret vars g) redirect (scopes g)
      (g.has forceSwitch.name) asJson
  | "device-flow" =>
    noOperands g
    return .deviceFlow (← clientId vars g) (optionalSecret vars g) (scopes g) asJson
  | "check-scopes" =>
    match g.operands with
    | [] => throw (.missing "REQUIREMENT")
    | text :: held => return .checkScopes (← requirement text) (held.map (⟨·⟩))
  | name => throw (.unknownCommand name)

/-- Reads the arguments of a command. -/
def read (vars : Variables) (name : String) (args : List String) : Except Usage Command :=
  match scan (helpSwitch :: (switches? name).getD []) true {} args with
  | .error e => .error (.options e)
  | .ok g => if g.has helpSwitch.name then .error .help else make vars name g

theorem read_checkScopes (vars : Variables) (text : String) (held : List String)
    (h : ∀ a ∈ text :: held, isOption a = false) :
    read vars "check-scopes" (text :: held) =
      ((Requirement.parse text).mapError Usage.requirement).map
        fun r => .checkScopes r (held.map (⟨·⟩)) := by
  rw [read, scan_operands _ _ _ _ h]
  simp only [Given.has, Given.withOperands, List.contains_nil, Bool.false_eq_true, if_false, make,
    List.nil_append, requirement]
  cases (Requirement.parse text).mapError Usage.requirement <;> rfl

end Bearer.Cli
