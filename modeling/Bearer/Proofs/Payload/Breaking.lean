import Bearer.Answer.Check
import Bearer.Proofs.Payload.Readings

/-!
# What breaks reading off

Readers collect the problems of a document, but two of them cannot handle every value. The scopes of
a record are brought to one spelling before they are looked at, which no number, no boolean and no
object with one key survives. And a length of time may be read that lies below all spans, though
none lies above. Nothing else in a document breaks reading off.

* `scopes_isBroken_iff`, `spanOr_isBroken_iff`: the two readers.
* `tokenAnswer_isBroken_iff`, `deviceCodes_isBroken_iff`, `validation_isBroken_iff`: the records.
* `breaks_of_body`: a body that breaks the reading of a record.
-/
namespace Bearer.Payload

variable {α : Type} {src : Source}

/-! ## Values -/

/-- A value that cannot be brought to the spelling of a list of scopes. -/
def HasNoItems : Json → Prop
  | .bool _ | .int _ | .float _ => True
  | .obj [_] => True
  | _ => False

theorem fromText_isBroken {type maker : String} {make : String → α} {v : Json} :
    ¬(fromText src type maker make v).IsBroken := by
  unfold fromText
  split
  · exact id
  · cases src <;> exact id

theorem items_isBroken {read : Json → Reading α} (hread : ∀ v, ¬(read v).IsBroken)
    (vs : List Json) (start : Nat) : ¬(Reading.items read start vs).IsBroken := by
  induction vs generalizing start with
  | nil => exact id
  | cons v vs ih =>
    change ¬(Reading.map List.cons ((read v).under (.index start)) <*>
      Reading.items read (start + 1) vs).IsBroken
    simp [hread, ih]

/-- Numbers, booleans and objects with one key are all that has no items. -/
theorem normalizeScopes_error_iff {v : Json} :
    (∃ e, normalizeScopes v = .error e) ↔ HasNoItems v := by
  unfold normalizeScopes
  split
  · simp [HasNoItems]
  · split <;> simp [HasNoItems]
  · simp [HasNoItems]
  · simp [HasNoItems]
  · simp [HasNoItems]
  · rename_i fields hmany
    match fields with
    | [] => simp [HasNoItems]
    | [f] => exact absurd rfl (hmany f)
    | _ :: _ :: _ => simp [HasNoItems]
  · cases v <;> simp_all [HasNoItems]

/-- The scopes of a record break reading off exactly if they have no items. -/
theorem scopes_isBroken_iff {v : Json} : (scopes src v).IsBroken ↔ HasNoItems v := by
  rw [← normalizeScopes_error_iff]
  unfold scopes
  split <;> rename_i h
  · simp [h]
  · simp [h]
  · rename_i items
    have hscope : ∀ v, ¬(scope src v).IsBroken := fun _ => fromText_isBroken
    simp [h, items_isBroken hscope items 0]
  · simp [h]

/-- Microseconds that are read break reading off exactly if they are no span. -/
theorem spanOr_isBroken_iff {n : Option Int} :
    (spanOr n).IsBroken ↔ ∃ m, n = some m ∧ Time.Span.ofMicros? m = none := by
  cases n with
  | none => simp [spanOr]
  | some m =>
    unfold spanOr
    cases h : Time.Span.ofMicros? m <;> simp [h]

/-! ## Records -/

theorem scopesField_isBroken_iff {key : String} {fields : List (String × Json)} :
    (scopesField src key fields).IsBroken ↔
      ∃ v, Json.lookup? key fields = some v ∧ HasNoItems v := by
  unfold scopesField
  cases Json.lookup? key fields <;> simp [scopes_isBroken_iff]

theorem tokenAnswer_isBroken_iff {v : Json} :
    (tokenAnswer src v).IsBroken ↔ ∃ fields, v = .obj fields ∧
      ((∃ t, Json.lookup? "expires_in" fields = some t ∧ t ≠ .null ∧ (span src t).IsBroken) ∨
        ∃ s, Json.lookup? (scopesKey fields) fields = some s ∧ HasNoItems s) := by
  have hcredential : ∀ k v, ¬(credential src k v).IsBroken := fun _ _ => fromText_isBroken
  simp [tokenAnswer, fieldsOf_isBroken_iff, required_isBroken_iff, optional_isBroken_iff,
    scopesField_isBroken_iff, text_isBroken_iff, hcredential]

theorem deviceCodes_isBroken_iff {v : Json} :
    (deviceCodes src v).IsBroken ↔ ∃ fields, v = .obj fields ∧
      ((∃ t, Json.lookup? "expires_in" fields = some t ∧ (span src t).IsBroken) ∨
        ∃ t, Json.lookup? "interval" fields = some t ∧ (span src t).IsBroken) := by
  simp [deviceCodes, fieldsOf_isBroken_iff, required_isBroken_iff, text_isBroken_iff]

theorem knownSpan_isBroken_iff {v : Json} :
    (knownSpan v).IsBroken ↔ v.isSame (.int 0) = false ∧ v ≠ .null ∧ (span .memory v).IsBroken := by
  unfold knownSpan
  split <;> rename_i h <;> simp [h, nullable_isBroken_iff]

theorem validation_isBroken_iff {v : Json} :
    (validation src v).IsBroken ↔ ∃ fields, v = .obj fields ∧
      ((∃ t, Json.lookup? "expires_in" fields = some t ∧ (knownSpan t).IsBroken) ∨
        ∃ s, Json.lookup? "scopes" fields = some s ∧ HasNoItems s) := by
  have hcredential : ∀ k v, ¬(credential src k v).IsBroken := fun _ _ => fromText_isBroken
  simp only [validation, fieldsOf_isBroken_iff, Reading.app_isBroken_iff, Reading.map_isBroken_iff,
    required_isBroken_iff, optional_isBroken_iff, scopesField_isBroken_iff, text_isBroken_iff,
    hcredential, and_false, exists_false, false_or]
  refine exists_congr fun fields => and_congr_right fun _ => or_comm.trans (or_congr_left ?_)
  cases Json.lookup? "expires_in" fields <;> simp

/-! ## Bodies -/

/-- A body is an object in which the scopes have no items or a length of time is below all spans. -/
def Breaks (body : List UInt8) : Prop :=
  ∃ text fields, Text.Utf8.decode? body = some text ∧ Json.read? text = some (.obj fields) ∧
    ((∃ key s, key ∈ ["scope", "scopes"] ∧ Json.lookup? key fields = some s ∧ HasNoItems s) ∨
      ∃ key t src, key ∈ ["expires_in", "interval"] ∧ Json.lookup? key fields = some t ∧
        (span src t).IsBroken)

/-- The records that are read from answers of success. -/
inductive IsRecord : {α : Type} → RecordKind α → Prop
  | token : IsRecord .token
  | deviceCodes : IsRecord .deviceCodes
  | validation : IsRecord .validation

/-- Where the reading of a record breaks off, it is for its scopes or for a length of time. -/
theorem breaks_of_body {k : RecordKind α} (hk : IsRecord k) {bytes : List UInt8}
    (h : (body k.read bytes).IsBroken) : Breaks bytes := by
  obtain ⟨text, v, htext, hv, hbroken⟩ := body_isBroken_iff.1 h
  cases hk with
  | token =>
    obtain ⟨fields, rfl, ⟨t, ht, -, hspan⟩ | ⟨s, hs, hitems⟩⟩ := tokenAnswer_isBroken_iff.1 hbroken
    · exact ⟨text, fields, htext, hv, .inr ⟨"expires_in", t, _, by simp, ht, hspan⟩⟩
    · refine ⟨text, fields, htext, hv, .inl ⟨scopesKey fields, s, ?_, hs, hitems⟩⟩
      unfold scopesKey
      split <;> simp
  | deviceCodes =>
    obtain ⟨fields, rfl, ⟨t, ht, hspan⟩ | ⟨t, ht, hspan⟩⟩ := deviceCodes_isBroken_iff.1 hbroken
    · exact ⟨text, fields, htext, hv, .inr ⟨"expires_in", t, _, by simp, ht, hspan⟩⟩
    · exact ⟨text, fields, htext, hv, .inr ⟨"interval", t, _, by simp, ht, hspan⟩⟩
  | validation =>
    obtain ⟨fields, rfl, ⟨t, ht, hspan⟩ | ⟨s, hs, hitems⟩⟩ := validation_isBroken_iff.1 hbroken
    · exact ⟨text, fields, htext, hv, .inr ⟨"expires_in", t, _, by simp, ht,
        (knownSpan_isBroken_iff.1 hspan).2.2⟩⟩
    · exact ⟨text, fields, htext, hv, .inl ⟨"scopes", s, by simp, hs, hitems⟩⟩

end Bearer.Payload
