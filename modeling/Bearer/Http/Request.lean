import Bearer.Http.Headers
import Bearer.Text.Utf8
import Bearer.Url.Basic

/-!
# Requests

A request is made of a method, a URL and parameters to merge into its query, header fields and a
body. It accepts JSON unless its fields say otherwise, and it names the host of its URL, which must
be a proper one then, and the length of its body. Endpoints take their parameters in the query, so
most requests have no body.

* `make_url`: the URL of a request is the one given, with the parameters merged in.
-/
namespace Bearer.Http

/-- A request. -/
structure Request where
  /-- The method, in capitals. -/
  method : String
  /-- Where it goes. -/
  url : Url
  /-- Its header fields. -/
  headers : Headers
  /-- Its body. -/
  body : List UInt8
deriving DecidableEq, Inhabited

/-- Why a request cannot be made. -/
inductive RequestFault where
  /-- Its URL is none. -/
  | url (fault : InvalidUrl)
  /-- A header field holds a character outside ASCII. -/
  | headerNotAscii
  /-- The host of its URL is no international name, though it looks like one. -/
  | host (fault : Url.LabelFault)
  /-- Its URL has nothing like a scheme, so that no cookies can be kept for it. -/
  | noScheme
deriving DecidableEq, Repr

/-- Whether requests with the method say how long their body is even if there is none. -/
def tellsLength (method : String) : Bool :=
  method = "POST" || method = "PUT" || method = "PATCH"

/-- Header fields with the length of a body among them, unless they say how it is sent. -/
def Headers.withLength (hs : Headers) (method : String) (body : List UInt8) : Headers :=
  if !body.isEmpty then hs.setDefault "content-length" (toString body.length)
  else if tellsLength method && !hs.has "transfer-encoding" then
    hs.setDefault "content-length" "0"
  else hs

/-- Header fields with the host of a URL among them, if it has one. -/
def Headers.withHost (hs : Headers) (url : Url) : Headers :=
  if url.host.isEmpty then hs else hs.setDefault "host" url.netloc

/-- Checks the host of a URL if header fields do not name one already. -/
def Headers.checkHost (hs : Headers) (url : Url) : Except RequestFault Unit :=
  if hs.has "host" then .ok ()
  else match url.plainHost with
    | .ok _ => .ok ()
    | .error e => .error (.host e)

namespace Request

/-- Makes a request. -/
def make (method url : String) (params : List Url.Form.Param) (fields : List (String × String))
    (body : List UInt8) : Except RequestFault Request :=
  match (Url.parse url).bind fun u => u.withParams params with
  | .error e => .error (.url e)
  | .ok target =>
    if Headers.areAscii fields then
      let method := Text.upper method
      let headers := (Headers.ofFields fields).setDefault "accept" "application/json"
      (headers.checkHost target).map fun _ =>
        ⟨method, target, (headers.withLength method body).withHost target, body⟩
    else .error .headerNotAscii

/-- A request that posts parameters in the query of an endpoint. -/
def post (endpoint : String) (params : List Url.Form.Param) : Except RequestFault Request :=
  make "POST" endpoint params [] []

/-- A request that gets what an endpoint knows, with the given header fields. -/
def get (endpoint : String) (fields : List (String × String)) : Except RequestFault Request :=
  make "GET" endpoint [] fields []

theorem make_url {method url : String} {params : List Url.Form.Param}
    {fields : List (String × String)} {body : List UInt8} {r : Request}
    (h : make method url params fields body = .ok r) :
    ((Url.parse url).bind fun u => u.withParams params) = .ok r.url := by
  unfold make at h
  split at h
  · cases h
  · rename_i u hu
    split at h
    · cases hc : ((Headers.ofFields fields).setDefault "accept" "application/json").checkHost u with
      | error e => simp [hc, Except.map] at h
      | ok a =>
        simp only [hc, Except.map, Except.ok.injEq] at h
        exact h ▸ hu
    · cases h

end Request

end Bearer.Http
