import Bearer.Cli.Command
import Bearer.Cli.Output
import Bearer.Endpoint.Revocation
import Bearer.Endpoint.Validation
import Bearer.Grant.Code
import Bearer.Grant.Device
import Bearer.Requirement.Display
import Bearer.Settings.Load
import Bearer.Token.App

/-!
# Running commands

A command that is found starts only if the settings load, and only then are its arguments read. It
ends with an exit code and what it wrote: 0 if all went well, 2 if the arguments are wrong, and else
1, with the fault in words. A flow by a redirect stops to ask for the URL that the user was
redirected to, and asks again as long as nothing is typed.
-/
namespace Bearer.Cli

open Time (Clock)

/-- How a run ended. -/
structure Outcome where
  /-- The exit code. -/
  exitCode : Nat
  /-- What was written to the output. -/
  out : String := ""
  /-- What was written to the error output. -/
  err : String := ""
  /-- The fault that ended it, if one did. -/
  fault : Option Diagnosis := none
  /-- What ended it without being a fault. -/
  escape : Option Escape := none
  /-- What is wrong with the arguments. -/
  usage : Option Usage := none

/-- A run that waits for the URL that the user was redirected to. -/
structure Question where
  /-- The flow. -/
  grant : BrowserGrant
  /-- The secret of the client. -/
  secret : ClientSecret
  /-- Whether the token is written as JSON. -/
  asJson : Bool
  /-- What was written to the output. -/
  out : String

/-- How far a run is. -/
inductive Progress (σ τ : Type) where
  /-- It has ended. -/
  | done (o : Outcome) (w : World σ τ)
  /-- It waits for a line. -/
  | asking (q : Question) (w : World σ τ)

/-- What a run starts from. -/
structure Surroundings (σ τ : Type) where
  /-- The variables. -/
  vars : Variables
  /-- The text of the environment file, if there is one. -/
  file : Option String := none
  /-- Random bytes. -/
  random : List UInt8
  /-- The server. -/
  server : σ
  /-- What the clock reads. -/
  now : τ
  /-- The most polls of a device flow. -/
  pollLimit : Nat

variable {σ τ : Type}

/-- The world of a run. -/
def Surroundings.world (s : Surroundings σ τ) : World σ τ :=
  let settings := Settings.load { vars := s.vars, file := s.file }
  { server := s.server
    client := .agent (match settings with
      | .ok st => st.userAgent
      | .error _ => "")
    settings := settings
    now := s.now }

/-- What is written in front of every request for a line. -/
def promptText : String := "Paste the URL you were redirected to: \n"

/-- What ends with the result of a flow; `out` and `err` were written before. -/
def conclude {ε α : Type} [Diagnosable ε] (out err : String)
    (done : α → World σ τ → Outcome) : Except (Failure ε) α × World σ τ → Progress σ τ
  | (.ok a, w) => .done (done a w) w
  | (.error (.fault e), w) =>
    let d := Diagnosable.diagnosis e
    .done { exitCode := 1, out := out, err := err ++ "Error: " ++ d.message ++ "\n", fault := some d }
      (w.logged ⟨.error, Logging.loggerOf "cli", "Command failed: " ++ d.message⟩)
  | (.error (.escape e), w) => .done { exitCode := 1, out := out, err := err, escape := some e } w

/-- Ends with a token written behind `out`. -/
def tokenOutcome [Clock τ] (asJson : Bool) (out err : String) (t : Token τ) (w : World σ τ) :
    Outcome :=
  match t.lifetime.remaining? w.now with
  | some rest => { exitCode := 0, out := out ++ output asJson (tokenFields t rest), err := err }
  | none => { exitCode := 1, out := out, err := err, escape := some .spanOverflow }

/-- The fields of a validation, with what is missing of a requirement if there is one. -/
def validationFields (v : Validation) (require : Option Requirement) : Fields :=
  [("client_id", Report.of v.clientId), ("login", Report.of v.login),
    ("user_id", Report.of v.userId), ("scopes", Report.of (v.scopes.getD [])),
    ("expires_in", secondsField v.expiresIn)] ++
  (match require with
    | none => []
    | some r =>
      [("missing", Report.of ((r.missing (v.scopes.getD [])).map Requirement.display))])

/-- What is missing of a requirement, if there is one, after a validation. -/
def lack (v : Validation) (require : Option Requirement) : Option Requirement :=
  require.bind fun r => r.missing (v.scopes.getD [])

/-- Compares scopes with a requirement. -/
def checkScopes (require : Requirement) (held : List Scope) : Outcome :=
  match require.missing held with
  | none => { exitCode := 0, out := "ok\n" }
  | some m => { exitCode := 1, out := "missing: " ++ m.display ++ "\n" }

/-- What a device flow writes for the user. -/
def deviceHint (c : DeviceCodes) : String :=
  "Go to " ++ c.verificationUri ++ " and enter the code " ++ c.userCode ++ "\n"

variable [Http.Server σ]

/-- Gets a token for a user by a code. -/
def deviceFlow [Clock τ] (g : DeviceGrant τ) (asJson : Bool) (limit : Nat) (w : World σ τ) :
    Progress σ τ :=
  match DeviceGrant.start (g, w) with
  | (.error e, (_, w)) =>
    conclude "" "" (fun (_ : Unit) _ => { exitCode := 0 }) (.error e, w)
  | (.ok codes, held) =>
    let hint := deviceHint codes
    match DeviceGrant.wait limit held with
    | (r, (_, w)) => conclude "" hint (fun t => tokenOutcome asJson "" hint (.user t)) (r, w)

/-- Starts a flow by a redirect. -/
def authFlow (random : List UInt8) (g : BrowserGrant) (secret : ClientSecret) (asJson : Bool)
    (w : World σ τ) : Progress σ τ :=
  match (BrowserGrant.generateUrl random : Flow _ CodeFault _) (g, w) with
  | (.error e, (_, w)) =>
    conclude "" "" (fun (_ : Unit) _ => { exitCode := 0 }) (.error e, w)
  | (.ok (u, _), (g, w)) =>
    .asking ⟨g, secret, asJson, "Open this URL in a browser and authorize the application:\n" ++
      u.text ++ "\n" ++ promptText⟩ w

/-- Runs a command. -/
def run [Clock τ] (random : List UInt8) (limit : Nat) (c : Command) (w : World σ τ) :
    Progress σ τ :=
  match c with
  | .appToken client secret scopes asJson =>
    conclude "" "" (fun t => tokenOutcome asJson "" "" (.app t))
      (AppToken.obtain (some client) (some secret) scopes w)
  | .validate token require asJson =>
    conclude "" "" (fun v _ =>
      { exitCode := if (lack v require).isSome then 1 else 0
        out := output asJson (validationFields v require) })
      (Endpoint.validate (some token) w)
  | .revoke token client =>
    conclude "" "" (fun _ _ => { exitCode := 0, out := "Token revoked\n" })
      (Endpoint.revoke (some token) (some client) w)
  | .refresh token client secret asJson =>
    conclude "" "" (fun r _ =>
      { exitCode := 0
        out := output asJson [("access_token", Report.of r.accessToken),
          ("refresh_token", Report.of r.refreshToken),
          ("expires_in", secondsField (some r.lifetime))] })
      (Endpoint.refresh (some token) (some client) secret w)
  | .authFlow client secret redirect scopes force asJson =>
    authFlow random
      { responseType := .code, clientId := some client, redirectUrl := redirect, scopes := scopes,
        forceVerify := force } secret asJson w
  | .deviceFlow client secret scopes asJson =>
    deviceFlow { clientId := some client, scopes := scopes, clientSecret := secret } asJson limit w
  | .checkScopes require held => .done (checkScopes require held) w

/-- An outcome for wrong arguments. -/
def usageOutcome (u : Usage) : Outcome :=
  { exitCode := if u = .help then 0 else 2, usage := some u }

/-- Starts a run. -/
def start [Clock τ] (args : List String) (s : Surroundings σ τ) : Progress σ τ :=
  let w := s.world
  match split args with
  | .error u => .done (usageOutcome u) w
  | .ok (name, rest) =>
    match w.settings with
    | .error ps => .done { exitCode := 1, escape := some (.settings ps) } w
    | .ok _ =>
      match read s.vars name rest with
      | .error u => .done (usageOutcome u) w
      | .ok c => run s.random s.pollLimit c w

/-! ## Answering -/

/-- What a redirect brings. -/
inductive Redirected where
  /-- An error. -/
  | refused (error description : String)
  /-- A code and a state. -/
  | code (state code : String)
  /-- Neither. -/
  | nothing
deriving DecidableEq, Repr

/-- What the query of a redirect brings; of repeated parameters the first ones count. -/
def Redirected.ofQuery (q : Url.Query) : Redirected :=
  match q.first? "error" with
  | some e => .refused e ((q.first? "error_description").getD "")
  | none =>
    match q.first? "code", q.first? "state" with
    | some given, some state => .code state given
    | _, _ => .nothing

/-- Goes on with a line that is not empty. -/
def Question.finish [Clock τ] (q : Question) (line : String) (w : World σ τ) : Progress σ τ :=
  match Url.parse (Text.trimmed line) with
  | .error e => .done { exitCode := 1, out := q.out, escape := some (.request (.url e)) } w
  | .ok u =>
    match Redirected.ofQuery u.queryOf with
    | .refused e d =>
      .done { exitCode := 1, out := q.out, err := "Error: twitch returned " ++ e ++ " - " ++ d ++ "\n" } w
    | .nothing =>
      .done { exitCode := 1, out := q.out, err := "Error: the URL has no code and state parameters\n" } w
    | .code state code =>
      conclude q.out "" (fun t => tokenOutcome q.asJson q.out "" (.user t))
        (q.grant.exchangeCode (some q.secret) (some state) code w)

/-- Goes on with a line, or with the end of the input. -/
def Question.resume [Clock τ] (q : Question) (line : Option String) (w : World σ τ) :
    Progress σ τ :=
  match line with
  | none => .done { exitCode := 1, out := q.out ++ "\n", err := "Aborted.\n" } w
  | some s => if s.isEmpty then .asking { q with out := q.out ++ promptText } w else q.finish s w

/-- Ends a run with the lines of an input. -/
def Progress.finish [Clock τ] (p : Progress σ τ) (lines : List String) : Outcome × World σ τ :=
  match lines with
  | [] =>
    match p with
    | .done o w => (o, w)
    | .asking q w =>
      ({ exitCode := 1, out := q.out ++ "\n", err := "Aborted.\n" }, w)
  | line :: lines =>
    match p with
    | .done o w => (o, w)
    | .asking q w => (q.resume (some line) w).finish lines

end Bearer.Cli
