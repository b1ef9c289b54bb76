import Bearer.Credential.Basic
import Bearer.Http.Request
import Bearer.Payload.Reading

/-!
# Failures

An operation fails with a fault of its own, or something escapes that is no fault of the operation:
the settings do not load, something that is needed is not there, a request cannot be made, data has
a shape that no reader handles, a span leaves its range, or something outside broke.

* `map_id`: renaming faults leaves what escapes alone.
-/
namespace Bearer

/-- What an operation may lack. -/
inductive Lack where
  /-- A credential of the kind. -/
  | credential (kind : CredentialKind)
  /-- The state that a redirect gives back. -/
  | state
deriving DecidableEq

/-- What goes past the faults of an operation. -/
inductive Escape where
  /-- The settings have problems. -/
  | settings (problems : List Payload.Problem)
  /-- Something is not there. -/
  | lack (what : Lack)
  /-- A request cannot be made. -/
  | request (fault : Http.RequestFault)
  /-- Data has a shape that breaks reading off. -/
  | shape (fault : Payload.ShapeFault)
  /-- A length of time is no span. -/
  | spanOverflow
  /-- Something outside broke. -/
  | crash (name : String)
  /-- Waiting went on for longer than it was allowed to. -/
  | unfinished
deriving DecidableEq

/-- Why an operation failed. -/
inductive Failure (ε : Type) where
  /-- A fault of the operation. -/
  | fault (e : ε)
  /-- Something else. -/
  | escape (e : Escape)
deriving DecidableEq

namespace Failure

variable {ε δ : Type}

/-- The failure with its fault seen as another. -/
def map (f : ε → δ) : Failure ε → Failure δ
  | .fault e => .fault (f e)
  | .escape e => .escape e

theorem map_id (f : Failure ε) : f.map id = f := by
  cases f <;> rfl

end Failure

end Bearer
