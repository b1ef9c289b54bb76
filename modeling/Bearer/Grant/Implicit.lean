import Bearer.Grant.Code

/-!
# Implicit flows

The redirect of an implicit flow brings a token, or says what went wrong, and a state. If the state
is the one sent, the token is validated before it is given out.

* `acceptToken_mismatch`: a state that was not sent ends the flow at once.
-/
namespace Bearer

/-- Why a redirect with a token was not accepted. -/
inductive ImplicitFault where
  /-- The state is not the one sent. -/
  | stateMismatch
  /-- The server gave an error instead of a token. -/
  | refused (error description : Option String)
  /-- The token was not validated. -/
  | validation (f : ValidationFault)
deriving DecidableEq

instance : Diagnosable ImplicitFault where
  diagnosis
    | .stateMismatch => ⟨.stateMismatch, stateMismatchMessage, []⟩
    | .refused error description =>
      ⟨.implicitExchange, "twitch returned an error: " ++ error.getD "None" ++ " - " ++
        description.getD "None", []⟩
    | .validation f =>
      .because .implicitExchange "could not get validation for token" (Diagnosable.diagnosis f)

/-- What the redirect of an implicit flow brings. -/
structure ImplicitRedirect where
  /-- The state. -/
  state : Option String
  /-- The token. -/
  accessToken : Option AccessToken
  /-- A name for what went wrong. -/
  error : Option String := none
  /-- What went wrong. -/
  description : Option String := none

namespace BrowserGrant

variable {σ τ : Type} [Http.Server σ]

/-- Whether a redirect gives the state back that was sent. -/
def isAnsweredBy (g : BrowserGrant) (r : ImplicitRedirect) : Bool :=
  match r.state with
  | some state => g.stateIsValid state
  | none => false

/-- Accepts the token of a redirect. -/
def acceptToken (g : BrowserGrant) (r : ImplicitRedirect) :
    Flow (World σ τ) ImplicitFault (UserToken τ) := do
  if g.isAnsweredBy r then
    match r.accessToken with
    | none => Flow.fail (.refused r.error r.description)
    | some access =>
      let token ← (UserToken.ofExisting (some access) none none).mapFault .validation
      Flow.note .info "tokens.user_token" ("Obtained implicit user token for " ++ token.shownLogin)
      return token
  else Flow.fail .stateMismatch

theorem acceptToken_mismatch {g : BrowserGrant} {r : ImplicitRedirect}
    (h : g.isAnsweredBy r = false) (w : World σ τ) :
    g.acceptToken r w = (.error (.fault .stateMismatch), w) := by
  simp [acceptToken, h]

end BrowserGrant

end Bearer
