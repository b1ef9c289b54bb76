import Bearer.Token.User

/-!
# Device flows

A device asks for codes, shows one of them to the user, and polls with the other until the user has
authorized the client. While the user has not, the server refuses with a message of its own, and
that alone means going on. The codes are kept from the start until a token is got or they expire.

* `start_of_pending`: codes that are there are given out again, and nothing is sent.
* `poll_idle`, `waitWith_idle`: without codes nothing is sent.
-/
namespace Bearer

/-- Why a device flow did not go on. -/
inductive DeviceFault where
  /-- No codes were got. -/
  | start (f : CallFault)
  /-- There are no codes. -/
  | notStarted
  /-- The code was refused. -/
  | refused (r : Refusal)
  /-- The poll came to nothing. -/
  | poll (f : CallFault)
  /-- The token was not validated. -/
  | validation (f : ValidationFault)
  /-- The codes expired. -/
  | expired
deriving DecidableEq

instance : Diagnosable DeviceFault where
  diagnosis
    | .start f => .because .deviceExchange "failed to start device code flow" (Diagnosable.diagnosis f)
    | .notStarted => ⟨.deviceNotStarted, "device code flow has not been started", []⟩
    | .refused r =>
      .because .deviceExchange "device code was not accepted"
        (Diagnosable.diagnosis (AnswerFault.refused r))
    | .poll f => .because .deviceExchange "failed to poll for device token" (Diagnosable.diagnosis f)
    | .validation f =>
      .because .deviceExchange "could not get validation for token" (Diagnosable.diagnosis f)
    | .expired =>
      ⟨.deviceExpired, "device code expired before the user authorized the application", []⟩

/-- A device flow. -/
structure DeviceGrant (τ : Type) where
  /-- The client. -/
  clientId : Option ClientId
  /-- The scopes that are asked for. -/
  scopes : List Scope
  /-- The secret of the client, unless the client is public. -/
  clientSecret : Option ClientSecret
  /-- The codes, while the flow goes on. -/
  codes : Option DeviceCodes := none
  /-- When the codes were got. -/
  startedAt : Option τ := none

namespace DeviceGrant

open Time (Clock)

variable {σ τ : Type}

/-- What the flow names itself when it polls. -/
def grantType : String := "urn:ietf:params:oauth:grant-type:device_code"

/-- The message of a refusal that means that the user has not answered yet. -/
def pendingMessage : String := "authorization_pending"

/-- The flow with codes that were got at a reading of the clock. -/
def started (g : DeviceGrant τ) (codes : DeviceCodes) (now : τ) : DeviceGrant τ :=
  { g with codes := some codes, startedAt := some now }

/-- The flow without codes. -/
def cleared (g : DeviceGrant τ) : DeviceGrant τ :=
  { g with codes := none, startedAt := none }

/-- The parameters that ask for codes. -/
def startParams (g : DeviceGrant τ) : Except Escape (List Url.Form.Param) := do
  return [("client_id", ← Endpoint.textOf g.clientId), ("scopes", Scope.join g.scopes)]

/-- The request for codes. -/
def startRequest (settings : Answer.Loaded) (g : DeviceGrant τ) : Except Escape Http.Request := do
  let s ← Endpoint.settingsOf settings
  Endpoint.post s.deviceUrl (← g.startParams)

/-- The parameters of a poll. -/
def pollParams (g : DeviceGrant τ) (codes : DeviceCodes) :
    Except Escape (List Url.Form.Param) := do
  return ("client_id", ← Endpoint.textOf g.clientId) :: Endpoint.secretParam g.clientSecret ++
    [("device_code", codes.deviceCode), ("grant_type", grantType), ("scopes", Scope.join g.scopes)]

/-- The request of a poll. -/
def pollRequest (settings : Answer.Loaded) (g : DeviceGrant τ) (codes : DeviceCodes) :
    Except Escape Http.Request := do
  let params ← g.pollParams codes
  let s ← Endpoint.settingsOf settings
  Endpoint.post s.tokenUrl params

variable [Http.Server σ]

/-- Gets codes, unless they are there. -/
def start : Flow (DeviceGrant τ × World σ τ) DeviceFault DeviceCodes := do
  let g ← Flow.held
  match g.codes with
  | some codes => return codes
  | none =>
    let request ← (Flow.prepare g.startRequest).beside
    let codes ← ((Flow.call request .deviceCodes).mapFault DeviceFault.start).beside
    Flow.hold (g.started codes (← Flow.now.beside))
    (Flow.note .info "tokens.device_code"
      ("Device code flow started, verification at " ++ codes.verificationUri)).beside
    return codes

/-- What the fault of a poll means: that the user has not answered yet, or a fault of the flow. -/
def pollFault : CallFault → Flow (World σ τ) DeviceFault (Option TokenAnswer)
  | .answer (.refused r) => if r.message = pendingMessage then pure none else Flow.fail (.refused r)
  | f => Flow.fail (.poll f)

/-- Polls once; nothing comes of it while the user has not answered yet. -/
def poll : Flow (DeviceGrant τ × World σ τ) DeviceFault (Option (UserToken τ)) := do
  let g ← Flow.held
  match g.codes with
  | none => Flow.fail .notStarted
  | some codes =>
    let request ← (Flow.prepare (g.pollRequest · codes)).beside
    let answer := (Flow.call request .token : Flow (World σ τ) _ _) >>= fun a => pure (some a)
    match ← (answer.handle pollFault).beside with
    | none => return none
    | some answer =>
      let token ← ((UserToken.ofAnswer answer g.clientSecret).mapFault DeviceFault.validation).beside
      Flow.hold g.cleared
      (Flow.note .info "tokens.device_code" ("Obtained device user token for " ++ token.shownLogin)).beside
      return some token

variable [Clock τ]

/-- Polls and sleeps in turn until something comes of a poll or the next one would be past the
deadline. At most `limit` polls are made. -/
def pollUntil (sleep : τ → Flow (World σ τ) Empty Unit) (interval deadline : τ) :
    Nat → Flow (DeviceGrant τ × World σ τ) DeviceFault (UserToken τ)
  | 0 => Flow.escape .unfinished
  | limit + 1 => do
    match ← poll with
    | some token => return token
    | none =>
      if Clock.isLater (Clock.add (← Flow.now.beside) interval) deadline then
        Flow.hold (← Flow.held).cleared
        Flow.fail .expired
      else
        (Flow.note .debug "tokens.device_code"
          ("Authorization pending, polling again in " ++ Clock.text interval ++ "s")).beside
        ((sleep interval).mapFault nofun).beside
        pollUntil sleep interval deadline limit

/-- Polls until the user has authorized the client or the codes expire. Between polls `sleep`
sleeps; it may break off. -/
def waitWith (sleep : τ → Flow (World σ τ) Empty Unit) (limit : Nat) :
    Flow (DeviceGrant τ × World σ τ) DeviceFault (UserToken τ) := do
  let g ← Flow.held
  match g.codes, g.startedAt with
  | some codes, some startedAt =>
    pollUntil sleep (Clock.ofSpan codes.interval)
      (Clock.add startedAt (Clock.ofSpan codes.expiresIn)) limit
  | _, _ => Flow.fail .notStarted

/-- Polls until the user has authorized the client or the codes expire. -/
def wait (limit : Nat) : Flow (DeviceGrant τ × World σ τ) DeviceFault (UserToken τ) :=
  waitWith Flow.sleep limit

omit [Clock τ] in
theorem start_of_pending {s : DeviceGrant τ × World σ τ} {codes : DeviceCodes}
    (h : s.1.codes = some codes) : start s = (.ok codes, s) := by
  unfold start
  rw [Flow.bind_ok (Flow.held_apply s)]
  simp [h]

omit [Clock τ] in
theorem poll_idle {s : DeviceGrant τ × World σ τ} (h : s.1.codes = none) :
    poll s = (.error (.fault .notStarted), s) := by
  unfold poll
  rw [Flow.bind_ok (Flow.held_apply s)]
  simp [h]

theorem waitWith_idle {s : DeviceGrant τ × World σ τ} (h : s.1.codes = none)
    (sleep : τ → Flow (World σ τ) Empty Unit) (limit : Nat) :
    waitWith sleep limit s = (.error (.fault .notStarted), s) := by
  unfold waitWith
  rw [Flow.bind_ok (Flow.held_apply s)]
  simp [h]

end DeviceGrant

end Bearer
