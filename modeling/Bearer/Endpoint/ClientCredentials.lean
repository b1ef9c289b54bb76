import Bearer.Endpoint.Request
import Bearer.Flow.Send

/-!
# Client credentials

A client gets a token of its own, that belongs to no user, for its id and its secret. It names the
scopes it wants in one text.
-/
namespace Bearer

/-- Why a client got no token of its own. -/
structure CredentialsFault where
  /-- What the request came to. -/
  cause : CallFault
deriving DecidableEq

instance : Diagnosable CredentialsFault where
  diagnosis f := .because .appToken "failed to get app access token" (Diagnosable.diagnosis f.cause)

namespace Endpoint

variable {σ τ : Type} [Http.Server σ]

/-- The parameters that ask for a token. -/
def credentialsParams (client : Option ClientId) (secret : Option ClientSecret)
    (scopes : List Scope) : Except Escape (List Url.Form.Param) := do
  return [("client_id", ← textOf client), ("client_secret", ← textOf secret),
    ("grant_type", "client_credentials"), ("scope", Scope.join scopes)]

/-- The request for a token. -/
def credentialsRequest (settings : Answer.Loaded) (client : Option ClientId)
    (secret : Option ClientSecret) (scopes : List Scope) : Except Escape Http.Request := do
  let s ← settingsOf settings
  post s.tokenUrl (← credentialsParams client secret scopes)

/-- Gets a token for the client. -/
def credentials (client : Option ClientId) (secret : Option ClientSecret) (scopes : List Scope) :
    Flow (World σ τ) CredentialsFault TokenAnswer := do
  let request ← Flow.prepare (credentialsRequest · client secret scopes)
  let answer ← (Flow.call request .token).mapFault fun f => ⟨f⟩
  Flow.note .info "tokens.app_access_token"
    ("Obtained app access token for client " ++ Credential.shownOption client)
  return answer

end Endpoint

end Bearer
