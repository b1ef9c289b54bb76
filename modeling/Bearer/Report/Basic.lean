import Bearer.Credential.Basic
import Bearer.Payload.Problem
import Bearer.Requirement.Basic
import Bearer.Time.Span

/-!
# Reports

Values of the library as JSON documents, for tools that read them. What is absent is null. A scope
and a credential are their texts, so a report is no diagnostic: it holds secrets. A span is its
days, seconds and microseconds, a requirement a tree of objects with one key each.

* `report_scopes`: scopes that have the same report are the same.
-/
namespace Bearer

/-- Values that can be reported. -/
class Reportable (α : Type) where
  /-- The report of a value. -/
  report : α → Json

namespace Report

/-- The report of a value. -/
abbrev of {α : Type} [Reportable α] (a : α) : Json := Reportable.report a

instance : Reportable Json := ⟨id⟩

instance : Reportable String := ⟨.str⟩

instance : Reportable Bool := ⟨.bool⟩

instance : Reportable Int := ⟨.int⟩

instance : Reportable Nat := ⟨fun n => .int (n : Int)⟩

instance {α : Type} [Reportable α] : Reportable (Option α) where
  report
    | some a => of a
    | none => .null

instance {α : Type} [Reportable α] : Reportable (List α) where
  report as := .arr (as.map of)

instance : Reportable Scope := ⟨fun s => of s.text⟩

instance {k : CredentialKind} : Reportable (Credential k) := ⟨fun c => of c.text⟩

instance : Reportable Time.Span where
  report s :=
    .obj [("days", of s.days), ("seconds", of s.seconds), ("microseconds", of s.microseconds)]

mutual

/-- A requirement as a tree. -/
def tree : Requirement → Json
  | .scope s => of s
  | .all ps => .obj [("all", .arr (trees ps))]
  | .any ps => .obj [("any", .arr (trees ps))]
  | .not p => .obj [("not", tree p)]

/-- Requirements as trees. -/
def trees : List Requirement → List Json
  | [] => []
  | p :: ps => tree p :: trees ps

end

instance : Reportable Requirement := ⟨tree⟩

instance : Reportable Payload.Step where
  report
    | .key k => of k
    | .index i => of i

instance : Reportable Payload.Problem where
  report p :=
    .obj ([("loc", of p.path), ("type", of p.defect.code)] ++
      match p.defect with
      | .refused reason => [("msg", of ("Value error, " ++ reason))]
      | _ => [])

theorem report_scopes {ss ts : List Scope} (h : of ss = of ts) : ss = ts := by
  have hi : Function.Injective fun s : Scope => (of s : Json) := by
    rintro ⟨s⟩ ⟨t⟩ h
    simpa [of, Reportable.report] using h
  simp only [of, Reportable.report, Json.arr.injEq] at h
  exact List.map_inj_right (fun _ _ h => hi h) |>.1 h

end Report

end Bearer
