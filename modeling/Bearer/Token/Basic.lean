import Bearer.Endpoint.Refresh
import Bearer.Scope.Catalogue
import Bearer.Token.Lifetime

/-!
# Tokens

An app token acts for a client; a user token acts for a user, whose name and id it knows. Either is
made of credentials, the scopes it holds, and its lifetime. A token that was put together unchecked
may lack any of this but the scopes. A token in writing shows no secret.

* `describe_congr`: what is shown of tokens that differ in secrets alone is the same.
-/
namespace Bearer

/-- A token that acts for a client. -/
structure AppToken (τ : Type) where
  /-- The token. -/
  accessToken : Option AccessToken
  /-- The token to refresh it with. -/
  refreshToken : Option RefreshToken
  /-- The client. -/
  clientId : Option ClientId
  /-- The secret of the client. -/
  clientSecret : Option ClientSecret
  /-- The scopes it holds. -/
  scopes : List Scope
  /-- How long it is good for. -/
  lifetime : Lifetime τ
deriving DecidableEq

/-- A token that acts for a user. -/
structure UserToken (τ : Type) where
  /-- The token. -/
  accessToken : Option AccessToken
  /-- The token to refresh it with. -/
  refreshToken : Option RefreshToken
  /-- The client. -/
  clientId : Option ClientId
  /-- The secret of the client, unless the client is public. -/
  clientSecret : Option ClientSecret
  /-- The name of the user. -/
  login : Option String
  /-- The id of the user. -/
  userId : Option String
  /-- The scopes it holds. -/
  scopes : List Scope
  /-- How long it is good for. -/
  lifetime : Lifetime τ
deriving DecidableEq

/-- A token of either type. -/
inductive Token (τ : Type) where
  | app (t : AppToken τ)
  | user (t : UserToken τ)
deriving DecidableEq

namespace Token

variable {τ : Type}

/-- The name of the type of a token. -/
def typeName : Token τ → String
  | .app _ => "app_access_token"
  | .user _ => "user_token"

/-- The access token. -/
def accessToken : Token τ → Option AccessToken
  | .app t => t.accessToken
  | .user t => t.accessToken

/-- The token to refresh it with. -/
def refreshToken : Token τ → Option RefreshToken
  | .app t => t.refreshToken
  | .user t => t.refreshToken

/-- The client. -/
def clientId : Token τ → Option ClientId
  | .app t => t.clientId
  | .user t => t.clientId

/-- The secret of the client. -/
def clientSecret : Token τ → Option ClientSecret
  | .app t => t.clientSecret
  | .user t => t.clientSecret

/-- The name of the user, if there is one. -/
def login : Token τ → Option String
  | .app _ => none
  | .user t => t.login

/-- The id of the user, if there is one. -/
def userId : Token τ → Option String
  | .app _ => none
  | .user t => t.userId

/-- The scopes it holds. -/
def scopes : Token τ → List Scope
  | .app t => t.scopes
  | .user t => t.scopes

/-- How long it is good for. -/
def lifetime : Token τ → Lifetime τ
  | .app t => t.lifetime
  | .user t => t.lifetime

/-- Whose token it is in the log: the user's if the user has a name, else the client's. -/
def ownerName (t : Token τ) : String :=
  match t.login with
  | some login => if login.isEmpty then Credential.shownOption t.clientId else login
  | none => Credential.shownOption t.clientId

/-! ## In writing -/

/-- A value that may be absent, in writing. -/
def describeOption {α : Type} (describe : α → String) : Option α → String
  | some a => describe a
  | none => "None"

/-- Scopes in writing. -/
def describeScopes (ss : List Scope) : String :=
  "[" ++ ", ".intercalate (ss.map Scope.describe) ++ "]"

/-- The parts of a token in writing, each with its name; `rest` is what remains of its lifetime. -/
def describeParts (rest : Option Time.Span) (t : Token τ) : List (String × String) :=
  [("access_token", describeOption Credential.describe t.accessToken),
    ("refresh_token", describeOption Credential.describe t.refreshToken),
    ("client_id", describeOption Credential.describe t.clientId),
    ("client_secret", describeOption Credential.describe t.clientSecret)] ++
  (match t with
    | .app _ => []
    | .user u =>
      [("login", describeOption Text.quoted u.login),
        ("user_id", describeOption Text.quoted u.userId)]) ++
  [("expires_in", describeOption Time.Span.describe rest), ("scopes", describeScopes t.scopes)]

/-- A token in writing. -/
def describe (rest : Option Time.Span) (t : Token τ) : String :=
  (match t with
    | .app _ => "AppAccessToken"
    | .user _ => "UserToken") ++ "(" ++
  ", ".intercalate ((t.describeParts rest).map fun p => p.1 ++ "=" ++ p.2) ++ ")"

theorem describe_secret {k : CredentialKind} (h : k.isSecret = true) {a b : Option (Credential k)}
    (hs : a.isSome = b.isSome) :
    describeOption Credential.describe a = describeOption Credential.describe b := by
  cases a <;> cases b <;> simp_all [describeOption]
  exact (Credential.shown_eq_of_isSecret h _ _).2.1

theorem describe_congr (rest : Option Time.Span) (t : UserToken τ) {access : Option AccessToken}
    {refresh : Option RefreshToken} {secret : Option ClientSecret}
    (ha : access.isSome = t.accessToken.isSome) (hr : refresh.isSome = t.refreshToken.isSome)
    (hs : secret.isSome = t.clientSecret.isSome) :
    (Token.user { t with
      accessToken := access, refreshToken := refresh, clientSecret := secret }).describe rest =
        (Token.user t).describe rest := by
  unfold describe describeParts
  simp only [accessToken, refreshToken, clientId, clientSecret, scopes]
  rw [describe_secret rfl ha, describe_secret rfl hr, describe_secret rfl hs]

end Token

end Bearer
