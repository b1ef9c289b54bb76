import Bearer.Http.Request
import Bearer.Http.Response
import Bearer.Url.Reference

/-!
# Redirects

An answer that redirects names another place. Redirects are not followed, but a client works out
where they lead before it hands the answer over: the place must be a URL, which may lack what the
URL of the request has, and its host is compared with that of the request. Where this fails there is
no answer.

* `check_of_status`: answers that do not redirect pass.
-/
namespace Bearer.Http

/-- Why an answer that redirects is not handed over. -/
inductive RedirectFault where
  /-- The place is no URL. -/
  | place (fault : InvalidUrl)
  /-- The request for the place cannot be made. -/
  | request (fault : RequestFault)
deriving DecidableEq, Repr

namespace Redirect

/-- Whether a status is that of an answer that redirects. -/
def isRedirect (status : Int) : Bool :=
  [301, 302, 303, 307, 308].contains status

/-- The host of a URL as it is compared. -/
def hostOf (u : Url) : Except RedirectFault String :=
  u.plainHost.mapError fun f => .request (.host f)

/-- A URL that could be made, or a fault of the request. -/
def made (u : Except InvalidUrl Url) : Except RedirectFault Url :=
  u.mapError fun f => .request (.url f)

/-- The URL with the host of the request, if it has a scheme but no host. -/
def completed (source u : Url) : Except RedirectFault Url := do
  if u.scheme.isEmpty || !(← hostOf u).isEmpty then return u
  made (u.withHost (← hostOf source))

/-- The URL with the fragment of the request, if it has none. -/
def withFragmentOf (source u : Url) : Except RedirectFault Url :=
  if (source.fragment.getD "").isEmpty || !(u.fragment.getD "").isEmpty then .ok u
  else made (u.withFragment source.fragment)

/-- Where an answer to a request leads that names a place. -/
def target (source : Url) (place : String) : Except RedirectFault Url := do
  let u ← completed source (← (Url.parse place).mapError .place)
  withFragmentOf source (← if u.isAbsolute then .ok u else made (source.resolve u))

/-- Compares the hosts of two URLs; that of the first one is read first if their schemes agree. -/
def compareHosts (target source : Url) : Except RedirectFault Unit := do
  let (first, second) := if target.scheme = source.scheme then (target, source) else (source, target)
  let _ ← hostOf first
  let _ ← hostOf second

/-- Checks where an answer to a request leads. -/
def check (r : Request) (a : Response) : Except RedirectFault Unit :=
  if isRedirect a.status then
    match a.headers.value? "location" with
    | none => .ok ()
    | some place => do compareHosts (← target r.url place) r.url
  else .ok ()

theorem check_of_status {r : Request} {a : Response} (h : isRedirect a.status = false) :
    check r a = .ok () := by
  simp [check, h]

end Redirect

end Bearer.Http
