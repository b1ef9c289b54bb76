import Bearer.Endpoint.Validation
import Bearer.Token.Basic

/-!
# App tokens

An app token is got for the credentials of a client, or made of a token that the client already
has, once the server has validated it. It is refreshed with its refresh token or, if it has none, by
getting a new token for the same scopes. The scopes change only when a new token names some.
-/
namespace Bearer.AppToken

variable {σ τ : Type}

/-- The token that an answer brings, assembled at a reading of the clock. -/
def ofAnswer (answer : TokenAnswer) (client : Option ClientId) (secret : Option ClientSecret)
    (now : τ) : AppToken τ where
  accessToken := some answer.accessToken
  refreshToken := answer.refreshToken
  clientId := client
  clientSecret := secret
  scopes := answer.scopes.getD []
  lifetime := ⟨answer.expiresIn, now⟩

/-- The token that was validated, assembled at a reading of the clock. -/
def ofValidation (v : Validation) (access : Option AccessToken) (refresh : Option RefreshToken)
    (secret : Option ClientSecret) (now : τ) : AppToken τ where
  accessToken := access
  refreshToken := refresh
  clientId := some v.clientId
  clientSecret := secret
  scopes := v.scopes.getD []
  lifetime := ⟨v.expiresIn, now⟩

/-- The token with what a refresh brought. -/
def withRefreshed (t : AppToken τ) (r : Refreshed) (now : τ) : AppToken τ :=
  { t with
    accessToken := some r.accessToken
    refreshToken := r.refreshToken
    lifetime := ⟨some r.lifetime, now⟩ }

/-- The token with a new one in its place; it keeps its scopes unless the new one has some. -/
def withRenewed (t new : AppToken τ) : AppToken τ :=
  { t with
    accessToken := new.accessToken
    refreshToken := new.refreshToken
    scopes := if new.scopes.isEmpty then t.scopes else new.scopes
    lifetime := new.lifetime }

variable [Http.Server σ]

/-- Gets a token for the credentials of a client. -/
def obtain (client : Option ClientId) (secret : Option ClientSecret) (scopes : List Scope) :
    Flow (World σ τ) CredentialsFault (AppToken τ) := do
  let answer ← Endpoint.credentials client secret scopes
  return ofAnswer answer client secret (← Flow.now)

/-- The token that a client already has, once it is validated. -/
def ofExisting (access : Option AccessToken) (refresh : Option RefreshToken)
    (secret : Option ClientSecret) : Flow (World σ τ) ValidationFault (AppToken τ) := do
  let v ← Endpoint.validate access
  return ofValidation v access refresh secret (← Flow.now)

/-- Refreshes the token that is held. -/
def refresh : Flow (AppToken τ × World σ τ) RefreshFault Unit := do
  let t ← Flow.held
  match t.refreshToken with
  | some r =>
    let answer ← (Endpoint.refresh (some r) t.clientId t.clientSecret).beside
    Flow.hold (t.withRefreshed answer (← Flow.now.beside))
  | none =>
    let new ← ((obtain t.clientId t.clientSecret t.scopes).mapFault RefreshFault.renewal).beside
    Flow.hold (t.withRenewed new)

end Bearer.AppToken
