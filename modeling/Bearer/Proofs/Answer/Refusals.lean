import Bearer.Answer.Check
import Bearer.Proofs.Payload.Readings
import Bearer.Proofs.Text.Trimmed

/-!
# Refusals

What a refusal is, said without the reader that finds it: a JSON object with a status that is a
whole number from 100 on and below 600, a text for a message and, if it names an error at all, a
text for that. An answer that is accepted is none, whatever else its body holds.

* `refusal?_message_iff`: the reader finds refusals, with their messages, and nothing else.
* `mediaType_eq_json_iff`: which content types say that a body is JSON.
* `accepted_of_check`, `accepted_of_read`: what is accepted.
* `read_refused_iff`: a refusal is no record, even if its body would be one.
-/
namespace Bearer.Answer

open Http (Response)

/-- A body is a refusal with a message. -/
def Refuses (body : List UInt8) (message : String) : Prop :=
  ∃ text fields status n, Text.Utf8.decode? body = some text ∧ Json.read? text = some (.obj fields) ∧
    Json.lookup? "status" fields = some status ∧ Payload.whole status = .done n ∧
    100 ≤ n ∧ n < 600 ∧ Json.lookup? "message" fields = some (.str message) ∧
    ∀ e, Json.lookup? "error" fields = some e → e = .null ∨ ∃ name, e = .str name

/-- A content type says that a body is JSON: what stands before the first semicolon, or all of it,
is `application/json` in some case, perhaps with blanks round it. -/
def SaysJson (found : String) : Prop :=
  ∃ front type behind rest, found.toList = front ++ (type ++ behind) ++ rest ∧
    (∀ c ∈ front, Text.isBlank c = true) ∧ (∀ c ∈ behind, Text.isBlank c = true) ∧
    (∀ c ∈ type.head?, Text.isBlank c = false) ∧ (∀ c ∈ type.getLast?, Text.isBlank c = false) ∧
    ';' ∉ type ∧ (rest = [] ∨ ∃ parameters, rest = ';' :: parameters) ∧
    Text.lower (String.ofList type) = "application/json"

/-- A response that may be built on. One that brings a record, as `typed` says, must say nothing of
its type or say that it is JSON, unless the server is a mock. -/
structure Accepted (settings : Loaded) (typed : Bool) (a : Response) : Prop where
  status : a.status = 200
  noRefusal : ∀ message, ¬Refuses a.body message
  type : typed = true → ∀ found, a.contentType? = some found →
    SaysJson found ∨ ∃ s, settings = .ok s ∧ s.mockApi = true

/-! ## Refusals -/

theorem refusal_done_iff {v : Json} {message : String} :
    (∃ r, Payload.refusal v = .done r ∧ r.message = message) ↔
      ∃ fields status n, v = .obj fields ∧ Json.lookup? "status" fields = some status ∧
        Payload.whole status = .done n ∧ 100 ≤ n ∧ n < 600 ∧
        Json.lookup? "message" fields = some (.str message) ∧
        ∀ e, Json.lookup? "error" fields = some e → e = .null ∨ ∃ name, e = .str name := by
  have herror : ∀ fields, (∃ a, Payload.optional "error" Payload.text fields = .done a) ↔
      ∀ e, Json.lookup? "error" fields = some e → e = .null ∨ ∃ name, e = .str name := by
    simp [Payload.optional_done_iff, Payload.text_done_iff]
  simp only [← herror, Payload.refusal, Payload.fieldsOf_done_iff, Payload.Reading.app_done_iff,
    Payload.Reading.map_done_iff, Payload.required_done_iff, Payload.wholeWithin_done_iff,
    Payload.text_done_iff]
  constructor
  · rintro ⟨r, ⟨fields, rfl, g, error, ⟨h, m, ⟨n, ⟨status, hs, hn, hlow, hhigh⟩, rfl⟩,
      ⟨_, hm, rfl⟩, rfl⟩, he, rfl⟩, rfl⟩
    exact ⟨fields, status, n, rfl, hs, hn, hlow, hhigh, hm, error, he⟩
  · rintro ⟨fields, status, n, rfl, hs, hn, hlow, hhigh, hm, error, he⟩
    exact ⟨⟨n, message, error⟩, ⟨fields, rfl, _, error, ⟨_, message, ⟨n, ⟨status, hs, hn, hlow, hhigh⟩,
      rfl⟩, ⟨_, hm, rfl⟩, rfl⟩, he, rfl⟩, rfl⟩

theorem refusal?_eq_some_iff {body : List UInt8} {r : Refusal} :
    refusal? body = some r ↔ Payload.body Payload.refusal body = .done r := by
  unfold refusal?
  split <;> simp_all

/-- The reader finds a refusal exactly where there is one. -/
theorem refusal?_message_iff {body : List UInt8} {message : String} :
    (∃ r, refusal? body = some r ∧ r.message = message) ↔ Refuses body message := by
  simp only [refusal?_eq_some_iff, Payload.body_done_iff]
  constructor
  · rintro ⟨r, ⟨text, v, htext, hv, hr⟩, hm⟩
    obtain ⟨fields, status, n, rfl, h⟩ := refusal_done_iff.1 ⟨r, hr, hm⟩
    exact ⟨text, fields, status, n, htext, hv, h⟩
  · rintro ⟨text, fields, status, n, htext, hv, h⟩
    obtain ⟨r, hr, hm⟩ := refusal_done_iff.2 ⟨fields, status, n, rfl, h⟩
    exact ⟨r, ⟨text, _, htext, hv, hr⟩, hm⟩

theorem not_refuses_of_none {body : List UInt8} (h : refusal? body = none) (message : String) :
    ¬Refuses body message := by
  intro hr
  obtain ⟨r, hr, -⟩ := refusal?_message_iff.2 hr
  rw [h] at hr
  cases hr

/-! ## Content types -/

/-- The media type is JSON exactly where a content type says so. -/
theorem mediaType_eq_json_iff {found : String} :
    Response.mediaType found = "application/json" ↔ SaysJson found := by
  constructor
  · intro h
    obtain ⟨front, behind, hcut, hfront, hbehind, hhead, hlast⟩ :=
      Text.exists_trim (found.toList.takeWhile (· != ';'))
    refine ⟨front, _, behind, found.toList.dropWhile (· != ';'), ?_, hfront, hbehind, hhead, hlast,
      ?_, ?_, h⟩
    · rw [← hcut, List.takeWhile_append_dropWhile]
    · intro hmem
      have hin : ';' ∈ found.toList.takeWhile (· != ';') := by
        rw [hcut]
        exact List.mem_append_right _ (List.mem_append_left _ hmem)
      exact absurd (List.mem_takeWhile_imp hin) (by decide)
    · cases hrest : found.toList.dropWhile (· != ';') with
      | nil => exact .inl rfl
      | cons c rest =>
        have hstop := List.head?_dropWhile_not (· != ';') found.toList
        rw [hrest] at hstop
        exact .inr ⟨rest, by simpa using hstop⟩
  · rintro ⟨front, type, behind, rest, hfound, hfront, hbehind, hhead, hlast, hnone, hrest, h⟩
    have hne : type ≠ [] := by
      rintro rfl
      exact absurd h (by decide)
    have hkept : ∀ c ∈ front ++ (type ++ behind), (c != ';') = true := by
      intro c hc
      rw [bne_iff_ne]
      rintro rfl
      simp only [List.mem_append, hnone, false_or] at hc
      rcases hc with hc | hc
      · exact absurd (hfront _ hc) (by decide)
      · exact absurd (hbehind _ hc) (by decide)
    have htake : found.toList.takeWhile (· != ';') = front ++ (type ++ behind) := by
      rw [hfound, List.takeWhile_append_of_pos hkept]
      rcases hrest with rfl | ⟨parameters, rfl⟩
      · simp
      · simp
    rw [Response.mediaType, htake, Text.trim_append hfront hbehind hne hhead hlast]
    exact h

/-! ## Accepted answers -/

/-- What passes as a success may be built on where no record is needed. -/
theorem accepted_of_check {a : Response} (h : check a = .ok ()) (settings : Loaded) :
    Accepted settings false a where
  status := (check_eq_ok_iff.1 h).2
  noRefusal := not_refuses_of_none (check_eq_ok_iff.1 h).1
  type := nofun

theorem type_of_checkType {settings : Loaded} {a : Response} (h : checkType settings a = .ok ())
    {found : String} (hfound : a.contentType? = some found) :
    SaysJson found ∨ ∃ s, settings = .ok s ∧ s.mockApi = true := by
  unfold checkType at h
  rw [hfound] at h
  cases settings with
  | error ps => cases h
  | ok s =>
    by_cases hpass : (s.mockApi || Response.isJson found) = true
    · rcases Bool.or_eq_true_iff.1 hpass with hmock | hjson
      · exact .inr ⟨s, rfl, hmock⟩
      · exact .inl (mediaType_eq_json_iff.1 (of_decide_eq_true hjson))
    · simp [hpass] at h

theorem accepted_of_read {α : Type} {settings : Loaded} {k : RecordKind α} {a : Response}
    {record : α} (h : read settings k a = .ok record) : Accepted settings true a := by
  obtain ⟨hcheck, htype, -⟩ := read_eq_ok h
  exact ⟨(check_eq_ok_iff.1 hcheck).2, not_refuses_of_none (check_eq_ok_iff.1 hcheck).1,
    fun _ _ => type_of_checkType htype⟩

theorem checkType_ne_refused (settings : Loaded) (a : Response) (r : Refusal) :
    checkType settings a ≠ .error (.fault (.refused r)) := by
  unfold checkType
  split
  · exact nofun
  · split
    · exact nofun
    · split <;> exact nofun

theorem readBody_ne_refused {α : Type} (k : RecordKind α) (body : List UInt8) (r : Refusal) :
    readBody k body ≠ .error (.fault (.refused r)) := by
  unfold readBody
  split <;> exact nofun

/-- A refusal is found before anything else is looked at. -/
theorem read_refused_iff {α : Type} {settings : Loaded} {k : RecordKind α} {a : Response}
    {r : Refusal} :
    read settings k a = .error (.fault (.refused r)) ↔ refusal? a.body = some r := by
  unfold read check
  cases hr : refusal? a.body with
  | some f => simp
  | none =>
    simp only [reduceCtorEq, iff_false]
    by_cases hs : a.status = Http.okStatus
    · simp only [hs, if_true]
      split
      · rename_i e he
        intro h
        cases h
        exact checkType_ne_refused settings a r he
      · exact readBody_ne_refused k a.body r
    · simp [hs]

end Bearer.Answer
