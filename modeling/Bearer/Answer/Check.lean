import Bearer.Fault.Diagnosis
import Bearer.Fault.Failure
import Bearer.Http.Response
import Bearer.Payload.Records
import Bearer.Settings.Basic

/-!
# Checking answers

A response brings a record only if it is no refusal, has the status of success and says that it is
JSON, and if its body is the record. A body that reads as a refusal is one whatever the status. A
response without a content type passes for JSON, and so does any response of a mock server.

* `check_eq_ok_iff`: what passes for no refusal.
* `read_eq_ok`: what is known of a response that brought a record.
-/
namespace Bearer

/-- Why an answer was not accepted. -/
inductive AnswerFault where
  /-- It is a refusal. -/
  | refused (refusal : Refusal)
  /-- It has an unexpected status. -/
  | status (n : Int)
  /-- It is not JSON, but has this content type. -/
  | notJson (found : String)
  /-- Its body is no record of the name. -/
  | record (name : String) (problems : List Payload.Problem)
deriving DecidableEq

instance : Diagnosable AnswerFault where
  diagnosis
    | .refused r => ⟨.refusal, "twitch returned an error: " ++ r.display, []⟩
    | .status n => ⟨.status, "twitch returned an unexpected status code: " ++ toString n, []⟩
    | .notJson found =>
      ⟨.notJson, "returned content is not \x60application/json\x60, found \x60" ++ found ++ "\x60", []⟩
    | .record name ps =>
      ⟨.record, "could not deserialize " ++ name ++ ": " ++ Payload.summary name ps, [.data ps]⟩

/-- A kind of record that an answer may bring. -/
structure RecordKind (α : Type) where
  /-- Its name. -/
  name : String
  /-- Reads it. -/
  read : Json → Payload.Reading α

namespace RecordKind

/-- A token. -/
def token : RecordKind TokenAnswer := ⟨"TwitchTokenResponse", Payload.tokenAnswer .document⟩

/-- The codes of a device flow. -/
def deviceCodes : RecordKind DeviceCodes := ⟨"DeviceCodeResponse", Payload.deviceCodes .document⟩

/-- What is known of a token. -/
def validation : RecordKind Validation := ⟨"ValidatedToken", Payload.validation .document⟩

/-- A refusal. -/
def refusal : RecordKind Refusal := ⟨"TwitchTokenErrorResponse", Payload.refusal⟩

end RecordKind

namespace Answer

open Http (Response)

/-- The refusal that a body is, if it is one. -/
def refusal? (body : List UInt8) : Option Refusal :=
  match Payload.body Payload.refusal body with
  | .done r => some r
  | _ => none

/-- Checks that a response is a success and no refusal. -/
def check (r : Response) : Except AnswerFault Unit :=
  match refusal? r.body with
  | some f => .error (.refused f)
  | none => if r.status = Http.okStatus then .ok () else .error (.status r.status)

theorem check_eq_ok_iff {r : Response} :
    check r = .ok () ↔ refusal? r.body = none ∧ r.status = Http.okStatus := by
  unfold check
  split <;> rename_i h
  · simp [h]
  · split <;> simp [*]

/-- Settings as they come: loaded, or not because of problems. -/
abbrev Loaded := Except (List Payload.Problem) Settings

/-- Checks that a response passes for JSON. The settings are looked at only if it has a content
type. -/
def checkType (settings : Loaded) (r : Response) : Except (Failure AnswerFault) Unit :=
  match r.contentType? with
  | none => .ok ()
  | some found =>
    match settings with
    | .error ps => .error (.escape (.settings ps))
    | .ok s => if s.mockApi || Response.isJson found then .ok () else .error (.fault (.notJson found))

/-- Reads a body as a record. -/
def readBody {α : Type} (k : RecordKind α) (body : List UInt8) : Except (Failure AnswerFault) α :=
  match Payload.body k.read body with
  | .done a => .ok a
  | .faulty ps => .error (.fault (.record k.name ps))
  | .broken f => .error (.escape (.shape f))

/-- The record that a response brings. -/
def read {α : Type} (settings : Loaded) (k : RecordKind α) (r : Response) :
    Except (Failure AnswerFault) α :=
  match check r with
  | .error e => .error (.fault e)
  | .ok () =>
    match checkType settings r with
    | .error e => .error e
    | .ok () => readBody k r.body

theorem read_eq_ok {α : Type} {settings : Loaded} {k : RecordKind α} {r : Response} {a : α}
    (h : read settings k r = .ok a) :
    check r = .ok () ∧ checkType settings r = .ok () ∧ Payload.body k.read r.body = .done a := by
  unfold read at h
  split at h
  · cases h
  · rename_i hc
    split at h
    · cases h
    · rename_i ht
      refine ⟨hc, ht, ?_⟩
      unfold readBody at h
      split at h <;> cases h
      assumption

end Answer

end Bearer
