import Bearer.Logging.Level

/-!
# Settings

What can be set from outside: where the endpoints are, how strictly answers are checked, what the
client says of itself and how long it waits, and what is logged. Every endpoint lies under one root
unless it is set by itself to something that is not empty; the root ends in a slash.
-/
namespace Bearer

/-- The settings. -/
structure Settings where
  /-- The root of the endpoints. -/
  root : String := "https://id.twitch.tv/oauth2/"
  /-- Where users authorize an application, if set. -/
  authOverride : Option String := none
  /-- Where tokens come from, if set. -/
  tokenOverride : Option String := none
  /-- Where tokens are validated, if set. -/
  validateOverride : Option String := none
  /-- Where tokens are revoked, if set. -/
  revokeOverride : Option String := none
  /-- Where device flows start, if set. -/
  deviceOverride : Option String := none
  /-- Whether the server is a mock, whose answers need not say that they are JSON. -/
  mockApi : Bool := false
  /-- How many seconds the client waits. -/
  httpTimeout : Float := 30.0
  /-- What the client calls itself. -/
  userAgent : String := "twitch_oauth2/0.1.0"
  /-- The level of the log. -/
  logLevel : Logging.Level := .info
  /-- The format of the log. -/
  logFormat : Logging.Format := .text
  /-- The file of the log, if any. -/
  logFile : Option String := none
deriving Inhabited

namespace Settings

/-- An endpoint: what is set, or else its place under the root. -/
def endpoint (s : Settings) (override : Option String) (place : String) : String :=
  match override with
  | some url => if url.isEmpty then s.root ++ place else url
  | none => s.root ++ place

/-- Where users authorize an application. -/
def authUrl (s : Settings) : String := s.endpoint s.authOverride "authorize"

/-- Where tokens come from. -/
def tokenUrl (s : Settings) : String := s.endpoint s.tokenOverride "token"

/-- Where tokens are validated. -/
def validateUrl (s : Settings) : String := s.endpoint s.validateOverride "validate"

/-- Where tokens are revoked. -/
def revokeUrl (s : Settings) : String := s.endpoint s.revokeOverride "revoke"

/-- Where device flows start. -/
def deviceUrl (s : Settings) : String := s.endpoint s.deviceOverride "device"

end Settings

end Bearer
