import Bearer.Fault.Kind
import Bearer.Payload.Problem

/-!
# Diagnoses

What is told of a fault: its kind, its wording, and the causes behind it, nearest first. A fault
that stems from another quotes it: its wording ends with that of the other, whose kind is put in
front of the causes.
-/
namespace Bearer

/-- A cause behind a fault. -/
inductive Cause where
  /-- Another fault of the kind. -/
  | fault (kind : ErrorKind)
  /-- A failure of the transport. -/
  | transport (kind : String)
  /-- Data that could not be decompressed. -/
  | coding
  /-- Problems with data. -/
  | data (problems : List Payload.Problem)
deriving DecidableEq

/-- What is told of a fault. -/
structure Diagnosis where
  /-- Its kind. -/
  kind : ErrorKind
  /-- Its wording. -/
  message : String
  /-- What is behind it, nearest first. -/
  causes : List Cause := []
deriving DecidableEq

namespace Diagnosis

/-- The diagnosis of a fault that stems from another. -/
def because (kind : ErrorKind) (lead : String) (cause : Diagnosis) : Diagnosis :=
  ⟨kind, lead ++ ": " ++ cause.message, .fault cause.kind :: cause.causes⟩

/-- The problems with data that are behind a fault. -/
def problems? (d : Diagnosis) : Option (List Payload.Problem) :=
  d.causes.findSome? fun c =>
    match c with
    | .data ps => some ps
    | _ => none

end Diagnosis

/-- Faults that can be told. -/
class Diagnosable (ε : Type) where
  /-- What is told of a fault. -/
  diagnosis : ε → Diagnosis

end Bearer
