import Bearer.Endpoint.Request
import Bearer.Flow.Send

/-!
# Revoking tokens

A client gives a token up by asking the server to revoke it. The answer need not bring anything; it
only must not be a refusal.
-/
namespace Bearer

/-- Why a token was not revoked. -/
structure RevocationFault where
  /-- What the request came to. -/
  cause : CallFault
deriving DecidableEq

instance : Diagnosable RevocationFault where
  diagnosis f := .because .revocation "failed to revoke token" (Diagnosable.diagnosis f.cause)

namespace Endpoint

variable {σ τ : Type} [Http.Server σ]

/-- The parameters of a revocation. -/
def revocationParams (token : Option AccessToken) (client : Option ClientId) :
    Except Escape (List Url.Form.Param) := do
  return [("client_id", ← textOf client), ("token", ← textOf token)]

/-- The request that revokes a token. -/
def revocationRequest (settings : Answer.Loaded) (token : Option AccessToken)
    (client : Option ClientId) : Except Escape Http.Request := do
  let s ← settingsOf settings
  post s.revokeUrl (← revocationParams token client)

/-- Revokes a token. -/
def revoke (token : Option AccessToken) (client : Option ClientId) :
    Flow (World σ τ) RevocationFault Unit := do
  let request ← Flow.prepare (revocationRequest · token client)
  let response ← (Flow.send request).mapFault fun f => ⟨.send f⟩
  match Answer.check response with
  | .error f => Flow.fail ⟨.answer f⟩
  | .ok () =>
    Flow.note .info "oauth" ("Revoked token for client " ++ Credential.shownOption client)

end Endpoint

end Bearer
