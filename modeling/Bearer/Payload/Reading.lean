import Bearer.Json.Value
import Bearer.Payload.Problem

/-!
# Reading a description out of data

Reading gives what was read, or all problems, or it breaks off at a value that a reader cannot
handle at all. Readers of fields are put together by application: the problems of all of
them are collected, in the order of the fields.

* `seq_done_iff`: all was read exactly when each part was.
-/
namespace Bearer.Payload

/-- A value that breaks reading off. -/
inductive ShapeFault where
  /-- A value of this kind has no length. -/
  | noLength (kind : String)
  /-- An object has no item in first place. -/
  | noFirst
  /-- A length of time reaches further back than a span. -/
  | noSpan
deriving DecidableEq, Repr

/-- The wording of a fault; only a missing length has one. -/
def ShapeFault.message? : ShapeFault → Option String
  | .noLength kind => some ("object of type '" ++ kind ++ "' has no len()")
  | .noFirst | .noSpan => none

/-- What reading gives. -/
inductive Reading (α : Type) where
  | done (a : α)
  | faulty (problems : List Problem)
  | broken (fault : ShapeFault)
deriving DecidableEq, Repr

namespace Reading

variable {α β : Type}

/-- What is read, changed. -/
def map (f : α → β) : Reading α → Reading β
  | .done a => .done (f a)
  | .faulty ps => .faulty ps
  | .broken e => .broken e

/-- Two readings together. -/
def seq : Reading (α → β) → Reading α → Reading β
  | .broken e, _ => .broken e
  | _, .broken e => .broken e
  | .done f, .done a => .done (f a)
  | .done _, .faulty ps => .faulty ps
  | .faulty ps, .done _ => .faulty ps
  | .faulty ps, .faulty qs => .faulty (ps ++ qs)

instance : Applicative Reading where
  pure := .done
  map := map
  seq f a := seq f (a ())

theorem seq_done_iff {f : Reading (α → β)} {a : Reading α} {b : β} :
    seq f a = .done b ↔ ∃ g x, f = .done g ∧ a = .done x ∧ g x = b := by
  cases f <;> cases a <;> simp [seq]

/-- A reading that depends on another. -/
def bind (a : Reading α) (f : α → Reading β) : Reading β :=
  match a with
  | .done a => f a
  | .faulty ps => .faulty ps
  | .broken e => .broken e

/-- A single problem at the value itself. -/
def fail (d : Defect) : Reading α :=
  .faulty [⟨[], d⟩]

/-- A reading of a value seen from one step further out. -/
def under (s : Step) : Reading α → Reading α
  | .done a => .done a
  | .faulty ps => .faulty (ps.map (·.under s))
  | .broken e => .broken e

/-- The items of a list read one by one, with their indices from `start`. -/
def items (read : Json → Reading α) (start : Nat) : List Json → Reading (List α)
  | [] => .done []
  | v :: vs => seq (map List.cons ((read v).under (.index start))) (items read (start + 1) vs)

end Reading

/-- A field that must be there. -/
def required {α : Type} (key : String) (read : Json → Reading α)
    (fields : List (String × Json)) : Reading α :=
  match Json.lookup? key fields with
  | some v => (read v).under (.key key)
  | none => (Reading.fail .missing).under (.key key)

/-- A value that may be null. -/
def nullable {α : Type} (read : Json → Reading α) : Json → Reading (Option α)
  | .null => .done none
  | v => (read v).map some

/-- A field that may be absent or null. -/
def optional {α : Type} (key : String) (read : Json → Reading α)
    (fields : List (String × Json)) : Reading (Option α) :=
  match Json.lookup? key fields with
  | some v => (nullable read v).under (.key key)
  | none => .done none

/-- The fields of a document that must be an object. -/
def fieldsOf {α : Type} (read : List (String × Json) → Reading α) : Json → Reading α
  | .obj fields => read fields
  | _ => .fail .notObject

/-- A text. -/
def text : Json → Reading String
  | .str s => .done s
  | _ => .fail .notText

end Bearer.Payload
