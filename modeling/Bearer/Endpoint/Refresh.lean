import Bearer.Endpoint.ClientCredentials

/-!
# Refreshing tokens

A refresh token is exchanged for a new token. A public client does so without a secret. What comes
back must say how long the new token is good for.
-/
namespace Bearer

/-- What a refresh brings. -/
structure Refreshed where
  /-- The new token. -/
  accessToken : AccessToken
  /-- How long it is good for. -/
  lifetime : Time.Span
  /-- The token to refresh it with. -/
  refreshToken : Option RefreshToken
deriving DecidableEq

/-- Why a token was not refreshed. -/
inductive RefreshFault where
  /-- The request came to nothing. -/
  | call (f : CallFault)
  /-- The new token has no lifetime. -/
  | noExpiration
  /-- There is nothing to refresh the token with. -/
  | noRefreshToken
  /-- No new token was got in its place. -/
  | renewal (f : CredentialsFault)
deriving DecidableEq

instance : Diagnosable RefreshFault where
  diagnosis
    | .call f => .because .refresh "failed to refresh token" (Diagnosable.diagnosis f)
    | .noExpiration => ⟨.noExpiration, "no expiration found on new token", []⟩
    | .noRefreshToken => ⟨.noRefreshToken, "no refresh token found", []⟩
    | .renewal f => .because .refresh "failed to renew app access token" (Diagnosable.diagnosis f)

namespace Endpoint

variable {σ τ : Type} [Http.Server σ]

/-- The parameter for the secret of a client, if it has one. -/
def secretParam (secret : Option ClientSecret) : List Url.Form.Param :=
  match secret with
  | some s => [("client_secret", s.text)]
  | none => []

/-- The parameters of a refresh. -/
def refreshParams (token : Option RefreshToken) (client : Option ClientId)
    (secret : Option ClientSecret) : Except Escape (List Url.Form.Param) := do
  return ("client_id", ← textOf client) :: secretParam secret ++
    [("grant_type", "refresh_token"), ("refresh_token", ← textOf token)]

/-- The request that refreshes a token. -/
def refreshRequest (settings : Answer.Loaded) (token : Option RefreshToken)
    (client : Option ClientId) (secret : Option ClientSecret) : Except Escape Http.Request := do
  let params ← refreshParams token client secret
  let s ← settingsOf settings
  post s.tokenUrl params

/-- Refreshes a token. -/
def refresh (token : Option RefreshToken) (client : Option ClientId)
    (secret : Option ClientSecret) : Flow (World σ τ) RefreshFault Refreshed := do
  let request ← Flow.prepare (refreshRequest · token client secret)
  let answer ← (Flow.call request .token).mapFault .call
  match answer.expiresIn with
  | none => Flow.fail .noExpiration
  | some lifetime =>
    Flow.note .info "oauth" ("Refreshed token for client " ++ Credential.shownOption client)
    return ⟨answer.accessToken, lifetime, answer.refreshToken⟩

end Endpoint

end Bearer
