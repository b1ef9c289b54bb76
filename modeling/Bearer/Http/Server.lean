import Bearer.Http.Request
import Bearer.Http.Response

/-!
# Servers

A server takes requests one after another. To each it gives an answer, or the exchange fails on the
way, or something outside the exchange breaks. What it gives may depend on all requests before.
-/
namespace Bearer.Http

/-- A failure of the exchange itself. -/
structure TransportFailure where
  /-- The kind of failure. -/
  kind : String
  /-- What is said about it. -/
  message : String
  /-- Whether it was the coding of the answer that failed. -/
  isOfCoding : Bool := false
deriving DecidableEq, Repr

/-- What comes of a request. -/
inductive Reply where
  /-- An answer. -/
  | answer (response : Response)
  /-- The exchange failed. -/
  | failure (f : TransportFailure)
  /-- Something that is no part of the exchange broke, with a name of its own. -/
  | crash (name : String)
deriving DecidableEq, Inhabited

/-- Something that replies to requests. -/
class Server (σ : Type) where
  /-- The reply to a request, and the server after it. -/
  reply : σ → Request → Reply × σ

end Bearer.Http
