import Bearer.Answer.Check
import Bearer.Proofs.Payload.Readings

/-!
# Records by the fields of their objects

Where the parts of a record stand in the object that it is read from: under which key, and as what.
A text may be absent or null, scopes are an array of texts or one text with spaces between, and a
length of time is read as such. A lifetime of zero that the server names for a token is none.

* `tokenAnswer_done_iff`, `validation_done_iff`: the objects that a record is read from.
* `read_token`, `read_validation`: the records that are read from answers.
-/
namespace Bearer

namespace Payload

variable {fields : List (String × Json)} {key : String}

/-- There is a text under a key, or nothing or null. -/
def HasText (fields : List (String × Json)) (key : String) : Option String → Prop
  | some s => Json.lookup? key fields = some (.str s)
  | none => ∀ v, Json.lookup? key fields = some v → v = .null

/-- There are scopes under a key, in an array or in a text, or there are none: nothing, null, a text
of spaces or an empty text in an array. -/
def HasScopes (fields : List (String × Json)) (key : String) : Option (List Scope) → Prop
  | some ss => (Json.lookup? key fields = some (.arr (ss.map fun s => .str s.text)) ∧ ss ≠ [⟨""⟩]) ∨
      ∃ s, Json.lookup? key fields = some (.str s) ∧ ss ≠ [] ∧
        ss.map (·.text.toList) = Scope.words s.toList
  | none => ∀ v, Json.lookup? key fields = some v → v = .null ∨ v = .arr [.str ""] ∨
      ∃ s, v = .str s ∧ Scope.words s.toList = []

/-- There is a length of time under a key, or nothing or null. -/
def HasSpan (fields : List (String × Json)) (key : String) : Option Time.Span → Prop
  | some d => ∃ v, Json.lookup? key fields = some v ∧ span .document v = .done d
  | none => ∀ v, Json.lookup? key fields = some v → v = .null

/-- There is a length of time under a key that is not zero, or nothing, null or zero. -/
def HasKnownSpan (fields : List (String × Json)) (key : String) : Option Time.Span → Prop
  | some d => ∃ v, Json.lookup? key fields = some v ∧ v.isSame (.int 0) = false ∧
      span .memory v = .done d
  | none => ∀ v, Json.lookup? key fields = some v → v = .null ∨ v.isSame (.int 0) = true

/-- The parts of an answer with a token. -/
structure TokenFields (fields : List (String × Json)) (a : TokenAnswer) : Prop where
  accessToken : Json.lookup? "access_token" fields = some (.str a.accessToken.text)
  expiresIn : HasSpan fields "expires_in" a.expiresIn
  refreshToken : HasText fields "refresh_token" (a.refreshToken.map (·.text))
  scopes (v : Json) : Json.lookup? "scope" fields = some v → HasScopes fields "scope" a.scopes
  /-- Only if nothing stands under the key for the scopes, they may stand under another one. -/
  otherScopes : Json.lookup? "scope" fields = none → HasScopes fields "scopes" a.scopes
  tokenType : HasText fields "token_type" a.tokenType

/-- The parts of what is known of a token. -/
structure ValidationFields (fields : List (String × Json)) (v : Validation) : Prop where
  clientId : Json.lookup? "client_id" fields = some (.str v.clientId.text)
  login : HasText fields "login" v.login
  userId : HasText fields "user_id" v.userId
  scopes : HasScopes fields "scopes" v.scopes
  expiresIn : HasKnownSpan fields "expires_in" v.expiresIn

/-! ## Fields -/

section

variable {α : Type} {read : Json → Reading α} {x : α}

theorem nullable_some_iff {v : Json} :
    nullable read v = .done (some x) ↔ v ≠ .null ∧ read v = .done x := by
  unfold nullable
  split
  · simp
  · rename_i hv
    change some <$> read v = _ ↔ _
    have hnull : v ≠ .null := fun h => hv h
    simp [hnull]

theorem nullable_none_iff {v : Json} : nullable read v = .done none ↔ v = .null := by
  unfold nullable
  split
  · simp
  · rename_i hv
    change some <$> read v = _ ↔ _
    have hnull : v ≠ .null := fun h => hv h
    simp [hnull]

theorem optional_some_iff : optional key read fields = .done (some x) ↔
    ∃ v, Json.lookup? key fields = some v ∧ v ≠ .null ∧ read v = .done x := by
  unfold optional
  cases Json.lookup? key fields <;> simp [nullable_some_iff]

theorem optional_none_iff : optional key read fields = .done none ↔
    ∀ v, Json.lookup? key fields = some v → v = .null := by
  unfold optional
  cases Json.lookup? key fields <;> simp [nullable_none_iff]

end

theorem optional_text_iff {s : Option String} :
    optional key text fields = .done s ↔ HasText fields key s := by
  cases s with
  | none => exact optional_none_iff
  | some s =>
    rw [optional_some_iff]
    simp [text_done_iff, HasText]

theorem credential_done_iff {k : CredentialKind} {v : Json} {c : Credential k} :
    credential .document k v = .done c ↔ v = .str c.text := by
  obtain ⟨s⟩ := c
  cases v <;> simp [credential, fromText, Reading.fail]

theorem optional_credential_iff {k : CredentialKind} {c : Option (Credential k)} :
    optional key (credential .document k) fields = .done c ↔
      HasText fields key (c.map (·.text)) := by
  cases c with
  | none => exact optional_none_iff
  | some c =>
    rw [optional_some_iff]
    simp [credential_done_iff, HasText]

theorem optional_span_iff {d : Option Time.Span} :
    optional key (span .document) fields = .done d ↔ HasSpan fields key d := by
  cases d with
  | none => exact optional_none_iff
  | some d =>
    rw [optional_some_iff]
    refine exists_congr fun v => and_congr_right fun _ => and_iff_right_of_imp ?_
    rintro hspan rfl
    cases hspan

theorem knownSpan_some_iff {v : Json} {d : Time.Span} :
    knownSpan v = .done (some d) ↔ v.isSame (.int 0) = false ∧ span .memory v = .done d := by
  unfold knownSpan
  split
  · rename_i hzero
    simp [hzero]
  · rename_i hzero
    rw [nullable_some_iff, Bool.eq_false_iff]
    refine ⟨fun h => ⟨hzero, h.2⟩, fun h => ⟨?_, h.2⟩⟩
    rintro rfl
    cases h.2

theorem knownSpan_none_iff {v : Json} :
    knownSpan v = .done none ↔ v = .null ∨ v.isSame (.int 0) = true := by
  unfold knownSpan
  split
  · rename_i hzero
    simp [hzero]
  · rename_i hzero
    rw [nullable_none_iff]
    simp [hzero]

/-! ## Scopes -/

theorem normalizeScopes_arr_of_ne {vs : List Json} (h : vs ≠ [.str ""]) :
    normalizeScopes (.arr vs) = .ok (.arr vs) := by
  rcases vs with _ | ⟨v, _ | ⟨w, vs⟩⟩
  · rfl
  · cases v with
    | str s =>
      have hs : s.isEmpty = false := by
        rw [Bool.eq_false_iff, Ne, String.isEmpty_iff]
        rintro rfl
        exact h rfl
      rw [normalizeScopes, hs]
      rfl
    | _ => rfl
  · cases v <;> rfl

/-- What is brought to an array: an array, unless it holds an empty text alone, and the words of a
text. -/
theorem normalizeScopes_arr_iff {v : Json} {items : List Json} :
    normalizeScopes v = .ok (.arr items) ↔ (v = .arr items ∧ items ≠ [.str ""]) ∨
      ∃ s, v = .str s ∧ items ≠ [] ∧
        items = (Scope.words s.toList).map fun w => .str (String.ofList w) := by
  cases v with
  | str s =>
    rw [normalizeScopes, Scope.split?]
    cases hwords : Scope.words s.toList with
    | nil => simp +contextual [hwords]
    | cons w ws =>
      simp only [hwords, Except.ok.injEq, Json.arr.injEq, reduceCtorEq, false_and, false_or,
        List.map_map, Json.str.injEq, exists_eq_left']
      exact ⟨fun h => h ▸ ⟨List.cons_ne_nil _ _, rfl⟩, fun h => h.2.symm⟩
  | arr vs =>
    by_cases hempty : vs = [.str ""]
    · subst hempty
      refine iff_of_false nofun ?_
      rintro (⟨h, hne⟩ | ⟨_, h, -⟩)
      · cases h
        exact hne rfl
      · cases h
    · rw [normalizeScopes_arr_of_ne hempty]
      simp only [Except.ok.injEq, Json.arr.injEq, reduceCtorEq, false_and, exists_false, or_false]
      exact ⟨fun h => h ▸ ⟨rfl, hempty⟩, fun h => h.1⟩
  | obj fields =>
    match fields with
    | [] | [_] | _ :: _ :: _ => simp [normalizeScopes]
  | null | bool b | int n | float x => simp [normalizeScopes]

theorem normalizeScopes_null_iff {v : Json} :
    normalizeScopes v = .ok .null ↔ v = .null ∨ v = .arr [.str ""] ∨
      ∃ s, v = .str s ∧ Scope.words s.toList = [] := by
  cases v with
  | str s =>
    rw [normalizeScopes, Scope.split?]
    cases hwords : Scope.words s.toList <;> simp [hwords]
  | arr vs =>
    by_cases hempty : vs = [.str ""]
    · subst hempty
      simp [normalizeScopes]
    · rw [normalizeScopes_arr_of_ne hempty]
      simp [hempty]
  | obj fields =>
    match fields with
    | [] | [_] | _ :: _ :: _ => simp [normalizeScopes]
  | null | bool b | int n | float x => simp [normalizeScopes]

theorem items_scope_iff {start : Nat} {items : List Json} {ss : List Scope} :
    Reading.items (scope .document) start items = .done ss ↔
      items = ss.map fun s => .str s.text := by
  induction items generalizing start ss with
  | nil => cases ss <;> simp [Reading.items]
  | cons v items ih =>
    have hscope (s : Scope) : scope .document v = .done s ↔ v = .str s.text := by
      obtain ⟨s⟩ := s
      cases v <;> simp [scope, fromText, Reading.fail]
    change List.cons <$> (scope .document v).under (.index start) <*>
      Reading.items (scope .document) (start + 1) items = .done ss ↔ _
    simp only [Reading.app_done_iff, Reading.map_done_iff, Reading.under_done_iff, hscope, ih]
    cases ss with
    | nil => simp
    | cons s ss =>
      simp only [List.map_cons, List.cons.injEq]
      constructor
      · rintro ⟨_, _, ⟨_, hv, rfl⟩, hitems, hcons⟩
        cases hcons
        exact ⟨hv, hitems⟩
      · rintro ⟨hv, hitems⟩
        exact ⟨_, _, ⟨_, hv, rfl⟩, hitems, rfl⟩

theorem scopes_some_iff {v : Json} {ss : List Scope} : scopes .document v = .done (some ss) ↔
    ∃ items, normalizeScopes v = .ok (.arr items) ∧ items = ss.map fun s => .str s.text := by
  unfold scopes
  split <;> rename_i h
  · simp [h]
  · simp [h]
  · simp only [h, Except.ok.injEq, Json.arr.injEq, exists_eq_left']
    refine Reading.map_done_iff.trans ?_
    simp [items_scope_iff]
  · rename_i hnot
    simp only [h, Except.ok.injEq, Reading.fail, reduceCtorEq, false_iff, not_exists]
    rintro items ⟨rfl, -⟩
    exact hnot items rfl

theorem scopes_none_iff {v : Json} :
    scopes .document v = .done none ↔ normalizeScopes v = .ok .null := by
  unfold scopes
  split <;> rename_i h
  · simp [h]
  · simp [h]
  · simp only [h, Except.ok.injEq, reduceCtorEq, iff_false]
    intro hdone
    obtain ⟨_, -, hsome⟩ := Reading.map_done_iff.1 hdone
    cases hsome
  · rename_i hnull hnot
    simpa [h, Reading.fail] using hnull

theorem strs_eq_iff {ss : List Scope} {ws : List (List Char)} :
    (ss.map fun s => Json.str s.text) = ws.map (fun w => .str (String.ofList w)) ↔
      ss.map (·.text.toList) = ws := by
  induction ss generalizing ws with
  | nil => cases ws <;> simp
  | cons s ss ih =>
    cases ws with
    | nil => simp
    | cons w ws =>
      have hword : s.text = String.ofList w ↔ s.text.toList = w :=
        ⟨fun h => by rw [h, String.toList_ofList], fun h => by rw [← h, String.ofList_toList]⟩
      simp only [List.map_cons, List.cons.injEq, Json.str.injEq, hword, ih]

theorem scopesField_done_iff {ss : Option (List Scope)} :
    scopesField .document key fields = .done ss ↔ HasScopes fields key ss := by
  unfold scopesField
  cases hv : Json.lookup? key fields with
  | none => cases ss <;> simp [HasScopes, hv]
  | some v =>
    rw [Reading.under_done_iff]
    cases ss with
    | none =>
      rw [scopes_none_iff, normalizeScopes_null_iff]
      simp [HasScopes, hv]
    | some ss =>
      have hblank : (ss.map fun s => Json.str s.text) = [.str ""] ↔ ss = [⟨""⟩] := by
        rcases ss with _ | ⟨⟨s⟩, _ | ⟨t, ss⟩⟩ <;> simp
      have hnil : (ss.map fun s => Json.str s.text) = [] ↔ ss = [] := List.map_eq_nil_iff
      simp only [scopes_some_iff, normalizeScopes_arr_iff, exists_eq_right, HasScopes, hv,
        Option.some.injEq, Ne, hblank, hnil, strs_eq_iff]

/-! ## Records -/

theorem hasScopes_scopesKey_iff {ss : Option (List Scope)} :
    HasScopes fields (scopesKey fields) ss ↔
      (∀ v, Json.lookup? "scope" fields = some v → HasScopes fields "scope" ss) ∧
        (Json.lookup? "scope" fields = none → HasScopes fields "scopes" ss) := by
  unfold scopesKey
  cases hscope : Json.lookup? "scope" fields with
  | some v => simp
  | none =>
    cases hscopes : Json.lookup? "scopes" fields with
    | some v => simp
    | none => cases ss <;> simp [HasScopes, hscope, hscopes]

theorem tokenAnswer_done_iff {v : Json} {a : TokenAnswer} :
    tokenAnswer .document v = .done a ↔ ∃ fields, v = .obj fields ∧ TokenFields fields a := by
  rw [tokenAnswer, fieldsOf_done_iff]
  refine exists_congr fun fields => and_congr_right fun _ => ?_
  simp only [Reading.app_done_iff, Reading.map_done_iff, required_done_iff, credential_done_iff,
    optional_span_iff, optional_credential_iff, optional_text_iff, scopesField_done_iff,
    hasScopes_scopesKey_iff, exists_eq_right]
  constructor
  · rintro ⟨_, type, ⟨_, ss, ⟨_, spare, ⟨_, span, ⟨access, haccess, rfl⟩, hspan, rfl⟩, hspare, rfl⟩,
      ⟨hscopes, hother⟩, rfl⟩, htype, rfl⟩
    exact ⟨haccess, hspan, hspare, hscopes, hother, htype⟩
  · rintro ⟨haccess, hspan, hspare, hscopes, hother, htype⟩
    exact ⟨_, _, ⟨_, _, ⟨_, _, ⟨_, _, ⟨_, haccess, rfl⟩, hspan, rfl⟩, hspare, rfl⟩,
      ⟨hscopes, hother⟩, rfl⟩, htype, rfl⟩

theorem hasKnownSpan_of_some {d : Option Time.Span} {v : Json}
    (hv : Json.lookup? key fields = some v) :
    HasKnownSpan fields key d ↔ knownSpan v = .done d := by
  cases d <;> simp [HasKnownSpan, hv, knownSpan_some_iff, knownSpan_none_iff]

theorem hasKnownSpan_of_none {d : Option Time.Span} (hv : Json.lookup? key fields = none) :
    HasKnownSpan fields key d ↔ d = none := by
  cases d <;> simp [HasKnownSpan, hv]

theorem validation_done_iff {v : Json} {a : Validation} :
    validation .document v = .done a ↔ ∃ fields, v = .obj fields ∧ ValidationFields fields a := by
  rw [validation, fieldsOf_done_iff]
  refine exists_congr fun fields => and_congr_right fun _ => ?_
  simp only [Reading.app_done_iff, Reading.map_done_iff, required_done_iff, credential_done_iff,
    optional_text_iff, scopesField_done_iff, exists_eq_right]
  constructor
  · rintro ⟨_, span, ⟨_, ss, ⟨_, user, ⟨_, login, ⟨client, hclient, rfl⟩, hlogin, rfl⟩, huser, rfl⟩,
      hscopes, rfl⟩, hspan, rfl⟩
    refine ⟨hclient, hlogin, huser, hscopes, ?_⟩
    split at hspan
    · rename_i v hv
      exact (hasKnownSpan_of_some hv).2 (Reading.under_done_iff.1 hspan)
    · rename_i hv
      exact (hasKnownSpan_of_none hv).2 (Reading.done.inj hspan).symm
  · rintro ⟨hclient, hlogin, huser, hscopes, hspan⟩
    refine ⟨_, _, ⟨_, _, ⟨_, _, ⟨_, _, ⟨_, hclient, rfl⟩, hlogin, rfl⟩, huser, rfl⟩, hscopes, rfl⟩,
      ?_, rfl⟩
    split
    · rename_i v hv
      exact Reading.under_done_iff.2 ((hasKnownSpan_of_some hv).1 hspan)
    · rename_i hv
      rw [(hasKnownSpan_of_none hv).1 hspan]

end Payload

namespace Answer

/-- A body is an object with these fields. -/
def IsObject (body : List UInt8) (fields : List (String × Json)) : Prop :=
  ∃ text, Text.Utf8.decode? body = some text ∧ Json.read? text = some (.obj fields)

variable {settings : Loaded} {r : Http.Response}

/-- What an answer says that brings a token. -/
theorem read_token {a : TokenAnswer} (h : read settings .token r = .ok a) :
    ∃ fields, IsObject r.body fields ∧ Payload.TokenFields fields a := by
  obtain ⟨text, v, htext, hv, hread⟩ := Payload.body_done_iff.1 (read_eq_ok h).2.2
  obtain ⟨fields, rfl, hfields⟩ := Payload.tokenAnswer_done_iff.1 hread
  exact ⟨fields, ⟨text, htext, hv⟩, hfields⟩

/-- What an answer says that tells what is known of a token. -/
theorem read_validation {v : Validation} (h : read settings .validation r = .ok v) :
    ∃ fields, IsObject r.body fields ∧ Payload.ValidationFields fields v := by
  obtain ⟨text, doc, htext, hdoc, hread⟩ := Payload.body_done_iff.1 (read_eq_ok h).2.2
  obtain ⟨fields, rfl, hfields⟩ := Payload.validation_done_iff.1 hread
  exact ⟨fields, ⟨text, htext, hdoc⟩, hfields⟩

end Answer

end Bearer
