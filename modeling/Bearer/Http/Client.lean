import Bearer.Http.Coding
import Bearer.Http.Redirect
import Bearer.Http.Server
import Bearer.Text.Base64

/-!
# Clients

A client sends requests to a server. A bare client and an agent turn the user information of a URL
into credentials in a header field; an agent also says what it calls itself. A custom client sends
a request as it is. What an agent calls itself must be ASCII, unless the request says it already.

Every client undoes the coding of an answer. No client follows redirects, but one that is not custom
looks where they lead and keeps cookies, so that it may have no answer to hand over.

* `prepare_url`: a client does not change where a request goes.
-/
namespace Bearer.Http

/-- A client. -/
inductive Client where
  /-- Sends what it is given, with credentials. -/
  | bare
  /-- Also says what it calls itself. -/
  | agent (name : String)
  /-- Sends what it is given. -/
  | custom
deriving DecidableEq, Repr

namespace Client

/-- The name and the password that user information consists of. -/
def userAndPassword (userinfo : String) : String × String :=
  let s := userinfo.toList
  (String.ofList (Url.unescape (s.takeWhile (· != ':'))),
    String.ofList (Url.unescape ((s.dropWhile (· != ':')).drop 1)))

/-- The credentials that user information stands for. -/
def basicCredentials (userinfo : String) : String :=
  let (user, password) := userAndPassword userinfo
  "Basic " ++ String.ofList (Text.Base64.encode
    (Text.Utf8.encode (user.toList ++ ':' :: password.toList)))

/-- Whether user information names a user or a password. -/
def hasCredentials (userinfo : String) : Bool :=
  let (user, password) := userAndPassword userinfo
  !user.isEmpty || !password.isEmpty

/-- A request with the credentials that its URL holds. -/
def authorized (r : Request) : Request :=
  if hasCredentials r.url.userinfo then
    { r with headers := r.headers.set "authorization" (basicCredentials r.url.userinfo) }
  else r

/-- A request as the client sends it. -/
def prepare : Client → Request → Request
  | .bare, r => authorized r
  | .agent name, r => authorized { r with headers := r.headers.setDefault "user-agent" name }
  | .custom, r => r

/-- Whether the client can send a request: only a name outside ASCII keeps an agent from it. -/
def canSend : Client → Request → Bool
  | .agent name, r => r.headers.has "user-agent" || Text.isAscii name
  | .bare, _ => true
  | .custom, _ => true

/-- How an exchange fails whose answer cannot be decoded. -/
def undecodable (f : Deflate.Fault) : TransportFailure where
  kind := "DecodingError"
  message := f.message
  isOfCoding := true

/-- How an exchange fails whose answer redirects to what is no URL. -/
def misdirected (f : InvalidUrl) : TransportFailure where
  kind := "RemoteProtocolError"
  message := "Invalid URL in location header: " ++ f.message ++ "."

/-- Whether cookies can be kept for a URL: there is something in front of its first colon, and no
slash. -/
def keepsCookies (u : Url) : Bool :=
  let s := { u with fragment := none }.text.toList
  let isEnd := fun (c : Char) => c = '/' || c = ':'
  !(s.takeWhile fun c => !isEnd c).isEmpty && (s.dropWhile fun c => !isEnd c).head? = some ':'

/-- What a client makes of a decoded answer to a request. -/
def handOver (c : Client) (r : Request) (a : Response) : Except RequestFault Reply :=
  if c = .custom then .ok (.answer a)
  else if !keepsCookies r.url then .error .noScheme
  else match Redirect.check r a with
    | .ok () => .ok (.answer a)
    | .error (.place f) => .ok (.failure (misdirected f))
    | .error (.request f) => .error f

/-- What a client makes of the reply to a request. -/
def receive (c : Client) (r : Request) : Reply → Except RequestFault Reply
  | .answer a =>
    match a.decoded with
    | .ok a => c.handOver r a
    | .error f => .ok (.failure (undecodable f))
  | .failure f => .ok (.failure f)
  | .crash name => .ok (.crash name)

theorem authorized_url (r : Request) :
    (authorized r).url = r.url ∧ (authorized r).method = r.method ∧ (authorized r).body = r.body := by
  unfold authorized
  split <;> exact ⟨rfl, rfl, rfl⟩

theorem prepare_url (c : Client) (r : Request) :
    (c.prepare r).url = r.url ∧ (c.prepare r).method = r.method ∧ (c.prepare r).body = r.body := by
  cases c
  · exact authorized_url r
  · exact authorized_url _
  · exact ⟨rfl, rfl, rfl⟩

end Client

end Bearer.Http
