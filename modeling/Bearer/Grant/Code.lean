import Bearer.Grant.Browser
import Bearer.Token.User

/-!
# Exchanging codes

The redirect of a code flow brings a code and a state. If the state is the one sent, the code is
exchanged for a token, with the secret of the client, and the token is validated before it is given
out. With any other state nothing is sent.

* `exchangeCode_mismatch`: a state that was not sent ends the flow at once.
-/
namespace Bearer

/-- Why a code was not exchanged. -/
inductive CodeFault where
  /-- The state is not the one sent. -/
  | stateMismatch
  /-- The request came to nothing. -/
  | call (f : CallFault)
  /-- The token was not validated. -/
  | validation (f : ValidationFault)
deriving DecidableEq

/-- The wording for a state that is not the one sent. -/
def stateMismatchMessage : String := "state CSRF does not match"

instance : Diagnosable CodeFault where
  diagnosis
    | .stateMismatch => ⟨.stateMismatch, stateMismatchMessage, []⟩
    | .call f => .because .codeExchange "failed to exchange code" (Diagnosable.diagnosis f)
    | .validation f =>
      .because .codeExchange "could not get validation for token" (Diagnosable.diagnosis f)

namespace BrowserGrant

variable {σ τ : Type} [Http.Server σ]

/-- The parameters of an exchange. -/
def exchangeParams (g : BrowserGrant) (secret : Option ClientSecret) (code : String) :
    Except Escape (List Url.Form.Param) := do
  return [("client_id", ← Endpoint.textOf g.clientId), ("client_secret", ← Endpoint.textOf secret),
    ("code", code), ("grant_type", "authorization_code"), ("redirect_uri", g.redirectUrl)]

/-- The request that exchanges a code. -/
def exchangeRequest (settings : Answer.Loaded) (g : BrowserGrant) (secret : Option ClientSecret)
    (code : String) : Except Escape Http.Request := do
  let s ← Endpoint.settingsOf settings
  Endpoint.post s.tokenUrl (← g.exchangeParams secret code)

/-- Exchanges a code, if the state is the one sent. -/
def exchangeCode (g : BrowserGrant) (secret : Option ClientSecret) (state : Option String)
    (code : String) : Flow (World σ τ) CodeFault (UserToken τ) := do
  if ← Flow.prepare fun _ => g.checkState state then
    let request ← Flow.prepare (g.exchangeRequest · secret code)
    let answer ← (Flow.call request .token).mapFault .call
    let token ← (UserToken.ofAnswer answer secret).mapFault .validation
    Flow.note .info "tokens.user_token" ("Obtained user token for " ++ token.shownLogin)
    return token
  else Flow.fail .stateMismatch

theorem exchangeCode_mismatch {g : BrowserGrant} {state : String} (h : g.csrf ≠ some ⟨state⟩)
    (secret : Option ClientSecret) (code : String) (w : World σ τ) :
    g.exchangeCode secret (some state) code w = (.error (.fault .stateMismatch), w) := by
  have hv : g.checkState (some state) = .ok false := by
    simp only [checkState, Except.ok.injEq, Bool.eq_false_iff]
    exact fun e => h (stateIsValid_iff.1 e)
  unfold exchangeCode
  rw [Flow.bind_ok (Flow.prepare_apply _ w |>.trans (by rw [hv]; rfl))]
  simp

end BrowserGrant

end Bearer
