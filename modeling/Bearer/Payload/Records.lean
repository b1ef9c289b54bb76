import Bearer.Http.Status
import Bearer.Json.Reader
import Bearer.Payload.Values
import Bearer.Text.Utf8

/-!
# What the server answers

Four records come back from the server: a token, a refusal, the codes that start a device flow,
and what is known of a token. Each is read from the fields of an object; fields with other names
mean nothing.
-/
namespace Bearer

/-- An answer with a token. -/
structure TokenAnswer where
  /-- The token. -/
  accessToken : AccessToken
  /-- How long it is good for. -/
  expiresIn : Option Time.Span
  /-- The token to refresh it with. -/
  refreshToken : Option RefreshToken
  /-- The scopes it has. -/
  scopes : Option (List Scope)
  /-- Its type. -/
  tokenType : Option String
deriving DecidableEq

/-- An answer that refuses a request. -/
structure Refusal where
  /-- The status it names. -/
  status : Int
  /-- Why it refuses. -/
  message : String
  /-- A name for the refusal. -/
  error : Option String
deriving DecidableEq

/-- The refusal in words: its name, or the phrase of its status, and why. -/
def Refusal.display (r : Refusal) : String :=
  let name :=
    match r.error with
    | some e => if e.isEmpty then Http.phrase? r.status else some e
    | none => Http.phrase? r.status
  name.getD "Error" ++ " - " ++ r.message

/-- An answer that starts a device flow. -/
structure DeviceCodes where
  /-- The code that the device polls with. -/
  deviceCode : String
  /-- How long the codes are good for. -/
  expiresIn : Time.Span
  /-- How long to wait between polls. -/
  interval : Time.Span
  /-- The code that the user enters. -/
  userCode : String
  /-- Where the user enters it. -/
  verificationUri : String
deriving DecidableEq

/-- An answer that says what is known of a token. -/
structure Validation where
  /-- The client that the token was issued to. -/
  clientId : ClientId
  /-- The name of its user. -/
  login : Option String
  /-- The id of its user. -/
  userId : Option String
  /-- The scopes it has. -/
  scopes : Option (List Scope)
  /-- How long it is still good for. -/
  expiresIn : Option Time.Span
deriving DecidableEq

namespace Payload

/-- The key under which an answer with a token has its scopes. -/
def scopesKey (fields : List (String × Json)) : String :=
  if (Json.lookup? "scope" fields).isNone && (Json.lookup? "scopes" fields).isSome then "scopes"
  else "scope"

/-- Reads the scopes of a record. -/
def scopesField (src : Source) (key : String) (fields : List (String × Json)) :
    Reading (Option (List Scope)) :=
  match Json.lookup? key fields with
  | some v => (scopes src v).under (.key key)
  | none => .done none

/-- Reads an answer with a token. -/
def tokenAnswer (src : Source) : Json → Reading TokenAnswer :=
  fieldsOf fun fs =>
    TokenAnswer.mk <$> required "access_token" (credential src .accessToken) fs
      <*> optional "expires_in" (span src) fs
      <*> optional "refresh_token" (credential src .refreshToken) fs
      <*> scopesField src (scopesKey fs) fs
      <*> optional "token_type" text fs

/-- Reads a refusal. -/
def refusal : Json → Reading Refusal :=
  fieldsOf fun fs =>
    Refusal.mk <$> required "status" (wholeWithin 100 600) fs
      <*> required "message" text fs
      <*> optional "error" text fs

/-- Reads the codes of a device flow. -/
def deviceCodes (src : Source) : Json → Reading DeviceCodes :=
  fieldsOf fun fs =>
    DeviceCodes.mk <$> required "device_code" text fs
      <*> required "expires_in" (span src) fs
      <*> required "interval" (span src) fs
      <*> required "user_code" text fs
      <*> required "verification_uri" text fs

/-- Reads a lifetime that a validation gives: a number equal to zero means that it is not known.
The number has been looked at, so it is read as data in memory. -/
def knownSpan (v : Json) : Reading (Option Time.Span) :=
  if v.isSame (.int 0) then .done none else nullable (span .memory) v

/-- Reads what is known of a token. -/
def validation (src : Source) : Json → Reading Validation :=
  fieldsOf fun fs =>
    Validation.mk <$> required "client_id" (credential src .clientId) fs
      <*> optional "login" text fs
      <*> optional "user_id" text fs
      <*> scopesField src "scopes" fs
      <*> (match Json.lookup? "expires_in" fs with
        | some v => (knownSpan v).under (.key "expires_in")
        | none => .done none)

/-- The document that the characters of a text are. -/
def document {α : Type} (read : Json → Reading α) (s : List Char) : Reading α :=
  match Json.read? s with
  | some v => read v
  | none => .fail .notDocument

/-- The document that the bytes of a body are. -/
def body {α : Type} (read : Json → Reading α) (bytes : List UInt8) : Reading α :=
  match Text.Utf8.decode? bytes with
  | some s => document read s
  | none => .fail .notDocument

end Payload

end Bearer
