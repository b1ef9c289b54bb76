import Bearer.Deflate.Format
import Bearer.Http.Response
import Bearer.Url.Form

/-!
# Content codings

A body may be compressed; a header field names the codings that were applied to it, in their order,
and reading it undoes them in reverse. Codings that are not known are passed over. Of compressed
data without a header some servers leave the header off though they should not, so where it cannot
be read with one, it is read without.

* `decoded_status`: the status of a response does not depend on its coding.
-/
namespace Bearer.Http

/-- A content coding. -/
inductive Coding where
  /-- Compressed, with a long header. -/
  | gzip
  /-- Compressed, with a short header or none. -/
  | deflate
deriving DecidableEq, Repr

namespace Coding

/-- The coding of a name. -/
def ofName? (name : String) : Option Coding :=
  if name = "gzip" then some .gzip else if name = "deflate" then some .deflate else none

/-- Undoes a coding. -/
def decode : Coding → List UInt8 → Except Deflate.Fault (List UInt8)
  | .gzip, body => Deflate.Format.long.text body
  | .deflate, body =>
    match Deflate.Format.short.text body with
    | .ok text => .ok text
    | .error _ => Deflate.Format.bare.text body

end Coding

/-- The known codings that header fields name, in their order. -/
def Headers.codings (hs : Headers) : List Coding :=
  (hs.values "content-encoding").flatMap fun v =>
    (Url.Form.pieces ',' v.toList).filterMap fun name =>
      Coding.ofName? (Text.lower (String.ofList (Text.trim name)))

/-- A response with its body as it was before it was coded. -/
def Response.decoded (r : Response) : Except Deflate.Fault Response :=
  if r.body.isEmpty then .ok r
  else (r.headers.codings.reverse.foldlM (fun body c => Coding.decode c body) r.body).map fun body =>
    { r with body := body }

theorem Response.decoded_status {r s : Response} (h : r.decoded = .ok s) :
    s.status = r.status ∧ s.headers = r.headers := by
  unfold decoded at h
  split at h
  · cases h
    exact ⟨rfl, rfl⟩
  · cases hf : r.headers.codings.reverse.foldlM (fun body c => Coding.decode c body) r.body with
    | error f => simp [hf, Except.map] at h
    | ok body =>
      simp only [hf, Except.map, Except.ok.injEq] at h
      subst h
      exact ⟨rfl, rfl⟩

end Bearer.Http
