import Bearer.Credential.Csrf
import Bearer.Endpoint.Request
import Bearer.Flow.World
import Bearer.Scope.Wire

/-!
# Sending users to authorize

In a browser flow the user is sent to a URL of the server and comes back by a redirect. The URL
names the client, the scopes it asks for and a CSRF token as the state; the redirect must give that
state back. The token is made anew for every URL and remembered, and only the last one counts.

* `generateUrl_csrf`: a URL that is generated holds the CSRF token that is remembered.
* `stateIsValid_iff`: the state that is accepted.
-/
namespace Bearer

/-- What the redirect of a browser flow brings. -/
inductive ResponseType where
  /-- A code to be exchanged for a token. -/
  | code
  /-- A token. -/
  | token
deriving DecidableEq, Repr

/-- The response type as a parameter. -/
def ResponseType.text : ResponseType → String
  | .code => "code"
  | .token => "token"

/-- A browser flow before the user comes back. -/
structure BrowserGrant where
  /-- What the redirect brings. -/
  responseType : ResponseType
  /-- The client. -/
  clientId : Option ClientId
  /-- Where the user is redirected to. -/
  redirectUrl : String
  /-- The scopes that are asked for. -/
  scopes : List Scope := []
  /-- The CSRF token that the redirect must give back. -/
  csrf : Option CsrfToken := none
  /-- Whether the user must approve the client again. -/
  forceVerify : Bool := false
deriving DecidableEq

namespace BrowserGrant

/-- The flow with other scopes. -/
def setScopes (g : BrowserGrant) (scopes : List Scope) : BrowserGrant :=
  { g with scopes := scopes }

/-- The flow with one more scope. -/
def addScope (g : BrowserGrant) (scope : Scope) : BrowserGrant :=
  { g with scopes := g.scopes ++ [scope] }

/-- The flow with the user made to approve the client again, or not. -/
def setForceVerify (g : BrowserGrant) (force : Bool) : BrowserGrant :=
  { g with forceVerify := force }

/-- The flow with another CSRF token, or with none. -/
def setCsrf (g : BrowserGrant) (csrf : Option CsrfToken) : BrowserGrant :=
  { g with csrf := csrf }

/-- Whether a state given back is the one sent. -/
def stateIsValid (g : BrowserGrant) (state : String) : Bool :=
  Csrf.isValid g.csrf state

theorem stateIsValid_iff {g : BrowserGrant} {state : String} :
    g.stateIsValid state = true ↔ g.csrf = some ⟨state⟩ :=
  Csrf.isValid_iff

/-- Whether a state given back is the one sent; it must be there if one was sent. -/
def checkState (g : BrowserGrant) (state : Option String) : Except Escape Bool :=
  match g.csrf, state with
  | _, some state => .ok (g.stateIsValid state)
  | some _, none => .error (.lack .state)
  | none, none => .ok false

/-- The parameters of the URL for the user. -/
def params (g : BrowserGrant) (csrf : CsrfToken) : Except Escape (List Url.Form.Param) := do
  return [("response_type", g.responseType.text), ("client_id", ← Endpoint.textOf g.clientId),
    ("redirect_uri", g.redirectUrl), ("scope", Scope.join g.scopes), ("state", csrf.text),
    ("force_verify", if g.forceVerify then "true" else "false")]

/-- The URL for the user. -/
def url (settings : Answer.Loaded) (g : BrowserGrant) (csrf : CsrfToken) : Except Escape Url := do
  let params ← g.params csrf
  let s ← Endpoint.settingsOf settings
  ((Url.parse s.authUrl).bind fun u => u.withParams params).mapError fun e => .request (.url e)

/-- Makes a CSRF token of random bytes and remembers it; gives it with the URL for the user. -/
def generateUrl {σ τ ε : Type} (bytes : List UInt8) :
    Flow (BrowserGrant × World σ τ) ε (Url × CsrfToken) := do
  let g ← Flow.held
  let csrf := Csrf.ofBytes bytes
  Flow.hold (g.setCsrf (some csrf))
  let u ← (Flow.prepare (g.url · csrf)).beside
  return (u, csrf)

theorem generateUrl_csrf {σ τ ε : Type} {bytes : List UInt8} {s s' : BrowserGrant × World σ τ}
    {u : Url} {csrf : CsrfToken}
    (h : (generateUrl bytes : Flow _ ε _) s = (.ok (u, csrf), s')) :
    s'.1 = s.1.setCsrf (some (Csrf.ofBytes bytes)) ∧ csrf = Csrf.ofBytes bytes := by
  obtain ⟨g, w⟩ := s
  unfold generateUrl at h
  rw [Flow.bind_ok (Flow.held_apply _), Flow.bind_ok (Flow.hold_apply _ _), Flow.bind_apply] at h
  simp only [Flow.beside_apply] at h
  cases hu : g.url w.settings (Csrf.ofBytes bytes) with
  | error e =>
    rw [Flow.prepare_error hu] at h
    simp at h
  | ok v =>
    rw [Flow.prepare_ok hu] at h
    simp only [Flow.pure_apply, Prod.mk.injEq, Except.ok.injEq] at h
    exact ⟨h.2 ▸ rfl, h.1.2.symm⟩

end BrowserGrant

end Bearer
