import Bearer.Http.Request
import Bearer.Payload.Records
import Bearer.Report.Basic
import Bearer.Token.Basic

/-!
# Reports of records

The records that a server answers, the requests that were sent to it, the tokens that came of them
and the settings, as objects. A body has one character for each byte, and the header fields of a
request are in the order of their names.
-/
namespace Bearer.Report

instance : Reportable TokenAnswer where
  report a :=
    .obj [("access_token", of a.accessToken), ("expires_in", of a.expiresIn),
      ("refresh_token", of a.refreshToken), ("scopes", of a.scopes),
      ("token_type", of a.tokenType)]

instance : Reportable Refusal where
  report r :=
    .obj [("status", of r.status), ("message", of r.message), ("error_text", of r.error),
      ("str", of r.display)]

/-- The fields of a report of codes. -/
def codesFields (c : DeviceCodes) : List (String × Json) :=
  [("device_code", of c.deviceCode), ("expires_in", of c.expiresIn), ("interval", of c.interval),
    ("user_code", of c.userCode), ("verification_uri", of c.verificationUri)]

instance : Reportable DeviceCodes := ⟨fun c => .obj (codesFields c)⟩

instance : Reportable Validation where
  report v :=
    .obj [("client_id", of v.clientId), ("login", of v.login), ("user_id", of v.userId),
      ("scopes", of v.scopes), ("expires_in", of v.expiresIn)]

instance : Reportable Refreshed where
  report r :=
    .obj [("access_token", of r.accessToken), ("expires_in", of r.lifetime),
      ("refresh_token", of r.refreshToken)]

/-- Bytes as text, one character each. -/
def bytes (bs : List UInt8) : Json :=
  .str (String.ofList (bs.map fun b => Char.ofNat b.toNat))

/-- The header fields of a message, ordered by name, and by value where names are equal. -/
def headers (hs : Http.Headers) : List (List String) :=
  (hs.mergeSort fun f g => f.1 < g.1 || (f.1 = g.1 && f.2 ≤ g.2)).map fun f => [f.1, f.2]

instance : Reportable Http.Request where
  report r :=
    .obj [("method", of r.method), ("url", of r.url.text), ("headers", of (headers r.headers)),
      ("body", bytes r.body)]

/-- A token, with what remains of its lifetime. -/
def token {τ : Type} (t : Token τ) (rest : Option Time.Span) : Json :=
  .obj [("token_type", of t.typeName), ("access_token", of t.accessToken),
    ("refresh_token", of t.refreshToken), ("client_id", of t.clientId),
    ("client_secret", of t.clientSecret), ("login", of t.login), ("user_id", of t.userId),
    ("scopes", of t.scopes), ("expires_in", of rest), ("is_elapsed", of (Lifetime.isOver rest))]

instance : Reportable Settings where
  report s :=
    .obj [("oauth2_url", of s.root), ("auth_url", of s.authUrl), ("token_url", of s.tokenUrl),
      ("validate_url", of s.validateUrl), ("revoke_url", of s.revokeUrl),
      ("device_url", of s.deviceUrl), ("mock_api", of s.mockApi),
      ("http_timeout", of (Number.floatText s.httpTimeout)), ("user_agent", of s.userAgent),
      ("log_level", of s.logLevel.name), ("log_format", of s.logFormat.name),
      ("log_file", of s.logFile)]

end Bearer.Report
