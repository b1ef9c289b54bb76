import Bearer.Payload.Records

/-!
# What readings come to

For each way of putting readings together, when it gives a value and when it breaks off. Everything
is read, so a record is broken as soon as one of its fields is, and whole when all of them are.

* `app_done_iff`, `required_done_iff`, `optional_done_iff`: what it takes to read a value.
* `app_isBroken_iff`, `fieldsOf_isBroken_iff`, `body_isBroken_iff`: what it takes to break off.
-/
namespace Bearer.Payload

variable {α β : Type}

namespace Reading

/-- A reading broke off. -/
def IsBroken : Reading α → Prop
  | .broken _ => True
  | _ => False

@[simp] theorem isBroken_done (a : α) : ¬(Reading.done a).IsBroken := id

@[simp] theorem isBroken_faulty (ps : List Problem) : ¬(Reading.faulty ps : Reading α).IsBroken := id

@[simp] theorem isBroken_broken (e : ShapeFault) : (Reading.broken e : Reading α).IsBroken := trivial

@[simp] theorem isBroken_fail (d : Defect) : ¬(Reading.fail d : Reading α).IsBroken := id

theorem isBroken_of_eq {r : Reading α} {e : ShapeFault} (h : r = .broken e) : r.IsBroken := by
  rw [h]
  trivial

@[simp] theorem map_done_iff {f : α → β} {a : Reading α} {b : β} :
    f <$> a = .done b ↔ ∃ x, a = .done x ∧ f x = b := by
  change map f a = _ ↔ _
  cases a <;> simp [map]

@[simp] theorem map_isBroken_iff {f : α → β} {a : Reading α} : (f <$> a).IsBroken ↔ a.IsBroken := by
  change (map f a).IsBroken ↔ _
  cases a <;> simp [map]

@[simp] theorem map'_isBroken_iff {f : α → β} {a : Reading α} :
    (map f a).IsBroken ↔ a.IsBroken :=
  map_isBroken_iff

@[simp] theorem app_done_iff {f : Reading (α → β)} {a : Reading α} {b : β} :
    f <*> a = .done b ↔ ∃ g x, f = .done g ∧ a = .done x ∧ g x = b :=
  seq_done_iff

@[simp] theorem app_isBroken_iff {f : Reading (α → β)} {a : Reading α} :
    (f <*> a).IsBroken ↔ f.IsBroken ∨ a.IsBroken := by
  change (seq f a).IsBroken ↔ _
  cases f <;> cases a <;> simp [seq]

@[simp] theorem under_done_iff {s : Step} {r : Reading α} {a : α} :
    r.under s = .done a ↔ r = .done a := by
  cases r <;> simp [under]

@[simp] theorem under_isBroken_iff {s : Step} {r : Reading α} :
    (r.under s).IsBroken ↔ r.IsBroken := by
  cases r <;> simp [under]

end Reading

/-! ## Fields -/

theorem required_done_iff {key : String} {read : Json → Reading α} {fields : List (String × Json)}
    {a : α} :
    required key read fields = .done a ↔ ∃ v, Json.lookup? key fields = some v ∧ read v = .done a := by
  unfold required
  cases Json.lookup? key fields <;> simp [Reading.fail]

theorem required_isBroken_iff {key : String} {read : Json → Reading α}
    {fields : List (String × Json)} :
    (required key read fields).IsBroken ↔
      ∃ v, Json.lookup? key fields = some v ∧ (read v).IsBroken := by
  unfold required
  cases Json.lookup? key fields <;> simp

theorem nullable_done_iff {read : Json → Reading α} {v : Json} :
    (∃ a, nullable read v = .done a) ↔ v = .null ∨ ∃ a, read v = .done a := by
  unfold nullable
  split
  · simp
  · rename_i hv
    change (∃ a, some <$> read v = .done a) ↔ _
    have hnull : v ≠ .null := fun h => hv h
    simp only [Reading.map_done_iff, hnull, false_or]
    exact exists_comm.trans (by simp)

theorem optional_done_iff {key : String} {read : Json → Reading α} {fields : List (String × Json)} :
    (∃ a, optional key read fields = .done a) ↔
      ∀ v, Json.lookup? key fields = some v → v = .null ∨ ∃ a, read v = .done a := by
  unfold optional
  cases Json.lookup? key fields <;> simp [nullable_done_iff]

theorem nullable_isBroken_iff {read : Json → Reading α} {v : Json} :
    (nullable read v).IsBroken ↔ v ≠ .null ∧ (read v).IsBroken := by
  unfold nullable
  split
  · simp
  · rename_i hv
    have hnull : v ≠ .null := fun h => hv h
    simp [hnull]

theorem optional_isBroken_iff {key : String} {read : Json → Reading α}
    {fields : List (String × Json)} :
    (optional key read fields).IsBroken ↔
      ∃ v, Json.lookup? key fields = some v ∧ v ≠ .null ∧ (read v).IsBroken := by
  unfold optional
  cases Json.lookup? key fields <;> simp [nullable_isBroken_iff]

theorem text_done_iff {v : Json} {s : String} : text v = .done s ↔ v = .str s := by
  cases v <;> simp [text, Reading.fail]

theorem text_isBroken_iff {v : Json} : ¬(text v).IsBroken := by
  cases v <;> simp [text]

theorem wholeWithin_done_iff {low high : Int} {v : Json} {n : Int} :
    wholeWithin low high v = .done n ↔ whole v = .done n ∧ low ≤ n ∧ n < high := by
  unfold wholeWithin Reading.bind
  cases whole v with
  | done m =>
    simp only [Reading.fail, Reading.done.injEq]
    split
    · simp
      omega
    · split
      · simp
        omega
      · simp
        omega
  | faulty ps => simp
  | broken e => simp

/-! ## Documents -/

theorem fieldsOf_done_iff {read : List (String × Json) → Reading α} {v : Json} {a : α} :
    fieldsOf read v = .done a ↔ ∃ fields, v = .obj fields ∧ read fields = .done a := by
  cases v <;> simp [fieldsOf, Reading.fail]

theorem fieldsOf_isBroken_iff {read : List (String × Json) → Reading α} {v : Json} :
    (fieldsOf read v).IsBroken ↔ ∃ fields, v = .obj fields ∧ (read fields).IsBroken := by
  cases v <;> simp [fieldsOf]

theorem body_done_iff {read : Json → Reading α} {bytes : List UInt8} {a : α} :
    body read bytes = .done a ↔
      ∃ s v, Text.Utf8.decode? bytes = some s ∧ Json.read? s = some v ∧ read v = .done a := by
  unfold body document
  cases Text.Utf8.decode? bytes with
  | none => simp [Reading.fail]
  | some s => cases h : Json.read? s <;> simp [Reading.fail, h]

theorem body_isBroken_iff {read : Json → Reading α} {bytes : List UInt8} :
    (body read bytes).IsBroken ↔
      ∃ s v, Text.Utf8.decode? bytes = some s ∧ Json.read? s = some v ∧ (read v).IsBroken := by
  unfold body document
  cases Text.Utf8.decode? bytes with
  | none => simp
  | some s => cases h : Json.read? s <;> simp [h]

end Bearer.Payload
