import Bearer.Endpoint.Request
import Bearer.Flow.Send

/-!
# Validating tokens

A token is validated by showing it to the server, which says what it knows of the token: whose it
is, what it permits and how long it is still good for. The server refuses a token that is not
authorized by the status of its answer alone, whatever else the answer holds.

* `areAscii_authorization`: which tokens can be shown.
-/
namespace Bearer

/-- Why a token was not validated. -/
inductive ValidationFault where
  /-- The request got no answer. -/
  | send (f : SendFault)
  /-- The token is not authorized. -/
  | notAuthorized
  /-- The answer was not accepted. -/
  | answer (f : AnswerFault)
  /-- The token belongs to no user. -/
  | noLogin
deriving DecidableEq

instance : Diagnosable ValidationFault where
  diagnosis
    | .send f => .because .validation "failed to request validation" (Diagnosable.diagnosis f)
    | .notAuthorized => ⟨.notAuthorized, "token is not authorized for use", []⟩
    | .answer f =>
      .because .validation "could not parse validation response" (Diagnosable.diagnosis f)
    | .noLogin => ⟨.noLogin, "validation did not return a login when it was expected", []⟩

namespace Endpoint

/-- The header field that shows a token is ASCII just if the token is. -/
theorem areAscii_authorization (text : String) :
    Http.Headers.areAscii [("Authorization", "OAuth " ++ text)] = Text.isAscii text := by
  have hname : Text.isAscii "Authorization" = true := by decide
  have hlead : Text.isAscii ("OAuth " ++ text) = Text.isAscii text := by
    simp [Text.isAscii]
  simp [Http.Headers.areAscii, hname, hlead]

variable {σ τ : Type} [Http.Server σ]

/-- The request that validates a token. -/
def validationRequest (settings : Answer.Loaded) (token : Option AccessToken) :
    Except Escape Http.Request := do
  let s ← settingsOf settings
  let text ← textOf token
  (Http.Request.get s.validateUrl [("Authorization", "OAuth " ++ text)]).mapError .request

/-- Validates a token. -/
def validate (token : Option AccessToken) : Flow (World σ τ) ValidationFault Validation := do
  let request ← Flow.prepare (validationRequest · token)
  let response ← (Flow.send request).mapFault .send
  if response.status = Http.unauthorizedStatus then Flow.fail .notAuthorized
  else
    let validation ← (Flow.accept .validation response).mapFault .answer
    Flow.note .debug "oauth" ("Validated token for client " ++ validation.clientId.shown ++
      " (login=" ++ validation.login.getD "None" ++ ")")
    return validation

end Endpoint

end Bearer
