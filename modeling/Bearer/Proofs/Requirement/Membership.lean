import Bearer.Proofs.Requirement.Nodes
import Bearer.Scope.Input

/-!
# What a requirement looks at

Of the scopes that are held a requirement looks at nothing but whether those it names are among
them. In which order they come, how often, which others there are, whether one was handed over as a
value or by its text, and whether a value is the shared one of the list or was made anew, makes no
difference: not for whether the requirement is met, and not for what of it is missing.

* `isMet_congr`, `missing_congr`: scopes that agree on the leaves of a requirement are the same to
  it.
* `mem_granted_iff`: a collection holds the scopes whose texts its members have.
* `membership_decides`: any two collections.
-/
namespace Bearer

namespace Requirement

variable {held more : List Scope} {p : Requirement}

/-! ## Scopes that agree on the leaves -/

/-- Whether a requirement is met depends on its leaves only. -/
theorem isMet_congr (h : ∀ s ∈ p.leaves, s ∈ held ↔ s ∈ more) : isMet held p = isMet more p := by
  induction p with
  | scope s =>
    rw [isMet, isMet, Bool.eq_iff_iff, List.contains_iff_mem, List.contains_iff_mem]
    exact h s (List.mem_singleton.2 rfl)
  | all ps ih =>
    rw [Bool.eq_iff_iff, isMet_all, isMet_all]
    exact forall₂_congr fun p hp =>
      Bool.eq_iff_iff.1 (ih p hp fun s hs => h s (mem_leaves_all.2 ⟨p, hp, hs⟩))
  | any ps ih =>
    rw [Bool.eq_iff_iff, isMet_any, isMet_any]
    exact exists_congr fun p => and_congr_right fun hp =>
      Bool.eq_iff_iff.1 (ih p hp fun s hs => h s (mem_leaves_any.2 ⟨p, hp, hs⟩))
  | not p ih => rw [isMet, isMet, ih h]

/-- What is missing depends on the leaves only, tree and all. -/
theorem missing_congr (h : ∀ s ∈ p.leaves, s ∈ held ↔ s ∈ more) :
    missing held p = missing more p := by
  induction p with
  | scope s =>
    have hmet : held.contains s = more.contains s := isMet_congr (p := .scope s) h
    rw [missing, missing, hmet]
  | all ps ih =>
    have hgaps : gaps held ps = gaps more ps := by
      rw [gaps_eq_filterMap, gaps_eq_filterMap]
      exact List.filterMap_congr fun p hp => ih p hp fun s hs => h s (mem_leaves_all.2 ⟨p, hp, hs⟩)
    rw [missing, missing, hgaps]
  | any ps ih =>
    have hmet : anyMet held ps = anyMet more ps := isMet_congr (p := .any ps) h
    have hgaps : gaps held ps = gaps more ps := by
      rw [gaps_eq_filterMap, gaps_eq_filterMap]
      exact List.filterMap_congr fun p hp => ih p hp fun s hs => h s (mem_leaves_any.2 ⟨p, hp, hs⟩)
    rw [missing, missing, hmet, hgaps]
  | not p =>
    have hmet : isMet held p = isMet more p := isMet_congr h
    rw [missing, missing, hmet]

end Requirement

/-! ## Collections -/

namespace Scope

/-- A member of a collection of scopes as it is handed over. -/
inductive Member where
  /-- A scope value, however it came about. -/
  | value (o : Origin) (s : Scope)
  /-- The text of a scope, documented or not. -/
  | text (t : String)

namespace Member

/-- The text by which a member names its scope. -/
def name : Member → String
  | .value _ s => s.text
  | .text t => t

/-- The scope that a member is: a value as it is, a text looked up in the list. -/
def scope : Member → Except Fault Scope
  | .value _ s => .ok s
  | .text t => lookUp (.str t)

theorem scope_eq (m : Member) : m.scope = .ok ⟨m.name⟩ := by
  cases m <;> rfl

end Member

/-- The scopes of a collection, in which values and texts may be mixed. -/
def granted (ms : List Member) : Except Fault (List Scope) :=
  ms.mapM Member.scope

theorem granted_eq (ms : List Member) : granted ms = .ok (ms.map fun m => ⟨m.name⟩) := by
  rw [granted, funext Member.scope_eq]
  exact List.mapM_pure

/-- An array of texts is the collection of these texts. -/
theorem held_arr (ts : List String) :
    held (.arr (ts.map .str)) = granted (ts.map .text) := by
  rw [granted, List.mapM_map]
  exact List.mapM_map

/-- An object is the collection of its keys. -/
theorem held_obj (fields : List (String × Json)) :
    held (.obj fields) = granted (fields.map fun f => .text f.1) := by
  rw [granted, List.mapM_map]
  exact List.mapM_map

theorem mem_granted_iff {ms : List Member} {ss : List Scope} (h : granted ms = .ok ss)
    (s : Scope) : s ∈ ss ↔ ∃ m ∈ ms, m.name = s.text := by
  rw [granted_eq, Except.ok.injEq] at h
  have hname : ∀ m : Member, (⟨m.name⟩ : Scope) = s ↔ m.name = s.text := fun _ =>
    ⟨congrArg Scope.text, congrArg Scope.mk⟩
  rw [← h, List.mem_map]
  exact exists_congr fun m => and_congr_right fun _ => hname m

end Scope

namespace Requirement

open Scope (Member granted)

/-- Any two collections whose members name the same of the leaves of a requirement, whatever else
they hold and in whatever form, order and number, are read without fault, and the requirement says
the same of both: whether it is met, and what of it is missing. Arrays of texts and objects, by
their keys, are such collections. -/
theorem membership_decides :
    (∀ (p : Requirement) (ms ns : List Member),
      (∀ s ∈ p.leaves, (∃ m ∈ ms, m.name = s.text) ↔ ∃ n ∈ ns, n.name = s.text) →
      ∃ held more, granted ms = .ok held ∧ granted ns = .ok more ∧
        isMet held p = isMet more p ∧ missing held p = missing more p) ∧
    (∀ ts : List String, Scope.held (.arr (ts.map .str)) = granted (ts.map .text)) ∧
    (∀ fields : List (String × Json),
      Scope.held (.obj fields) = granted (fields.map fun f => .text f.1)) := by
  refine ⟨fun p ms ns h => ?_, Scope.held_arr, Scope.held_obj⟩
  have hms := Scope.granted_eq ms
  have hns := Scope.granted_eq ns
  have hagree : ∀ s ∈ p.leaves, s ∈ ms.map (fun m => (⟨m.name⟩ : Scope)) ↔
      s ∈ ns.map fun m => (⟨m.name⟩ : Scope) := fun s hs => by
    rw [Scope.mem_granted_iff hms, Scope.mem_granted_iff hns]
    exact h s hs
  exact ⟨_, _, hms, hns, isMet_congr hagree, missing_congr hagree⟩

/-- Chatting without editing users. -/
def chatOnly : Requirement :=
  .all [.not (.scope ⟨"user:edit"⟩), .any [.scope ⟨"chat:edit"⟩], .scope ⟨"chat:read"⟩]

/-- One collection holds a scope twice and one that is not documented, the other the shared value of
that scope and one that is not asked for. -/
theorem membership_decides_mixed :
    ∃ held more,
      granted [.text "chat:read", .text "not:a:twitch:scope", .value .fresh ⟨"chat:read"⟩] = .ok held ∧
      granted [.value .listed ⟨"bits:read"⟩, .value .listed ⟨"chat:read"⟩] = .ok more ∧
      isMet held chatOnly = isMet more chatOnly ∧
      missing held chatOnly = missing more chatOnly :=
  membership_decides.1 chatOnly _ _ (by decide)

end Requirement

end Bearer
