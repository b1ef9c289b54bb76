import Bearer.Proofs.Http.Replies
import Bearer.Proofs.Payload.Breaking

/-!
# Flows out of which nothing but faults comes

A flow contains what goes wrong in it if it fails with faults alone, unless the last answer lets
something else out. There are three such answers: one that redirects to what cannot be requested, a
record whose scopes or times break reading off, and a token that no header field can hold, where it
is to be validated. Requests that are in order let nothing out before they are sent.

* `Contains.bind`, `Contains.handle`: flows that are made of flows that contain.
* `send_contains`, `call_contains`: a request that is in order, in a world that is sound.
-/
namespace Bearer

open World

variable {σ τ ε δ α β : Type} [Http.Server σ]

/-! ## Answers that let something out -/

/-- A reply to a request lets something out that is no fault. -/
inductive Http.Reply.LetsOut (c : Http.Client) (settings : Answer.Loaded) (r : Http.Request)
    (reply : Http.Reply) : Escape → Prop
  /-- It redirects to what cannot be requested. -/
  | redirect {a b : Http.Response} {f : Http.RequestFault} (ha : reply = .answer a)
      (hb : a.decoded = .ok b) (hstatus : Http.Redirect.isRedirect b.status = true)
      (hcheck : Http.Redirect.check r b = .error (.request f)) :
      LetsOut c settings r reply (.request f)
  /-- It is a success whose body breaks reading off. -/
  | record {a : Http.Response} {fault : Payload.ShapeFault}
      (ha : c.receive r reply = .ok (.answer a)) (hcheck : Answer.check a = .ok ())
      (hbody : Payload.Breaks a.body) : LetsOut c settings r reply (.shape fault)
  /-- It brings a token that is not ASCII. -/
  | token {a : Http.Response} {answer : TokenAnswer} (ha : c.receive r reply = .ok (.answer a))
      (hread : Answer.read settings .token a = .ok answer)
      (hascii : Text.isAscii answer.accessToken.text = false) :
      LetsOut c settings r reply (.request .headerNotAscii)

/-- The last answer from `w` to `w'` let something out. -/
def World.LetOut (w w' : World σ τ) (e : Escape) : Prop :=
  ∃ rs r, Exchanged (rs ++ [r]) w w' ∧
    (Http.Server.reply (Http.Server.after w.server rs) r).1.LetsOut w.client w.settings r e

namespace World

variable {u v w : World σ τ} {rs : List Http.Request} {e : Escape}

theorem LetOut.after (h : LetOut v w e) (hex : Exchanged rs u v) : LetOut u w e := by
  obtain ⟨rs', r, hex', hout⟩ := h
  refine ⟨rs ++ rs', r, ?_, ?_⟩
  · rw [List.append_assoc]
    exact hex.trans hex'
  · rw [hex.server, hex.client, hex.settings, ← Http.Server.after_append] at hout
    exact hout

theorem LetOut.quiet (h : LetOut u v e) (hex : Exchanged [] v w) : LetOut u w e := by
  obtain ⟨rs, r, hex', hout⟩ := h
  exact ⟨rs, r, hex'.quiet hex, hout⟩

/-- The only answer from `w` to `w'` let something out. -/
theorem LetOut.single {r : Http.Request} (hex : Exchanged [r] v w)
    (hout : (Http.Server.reply v.server r).1.LetsOut v.client v.settings r e) : LetOut v w e :=
  ⟨[], r, hex, hout⟩

/-- The settings load, the client can send every request that can be made, and nothing breaks
outside of an exchange, however many requests the server gets. -/
structure Sound (s : Settings) (w : World σ τ) : Prop where
  settings : w.settings = .ok s
  client : ∀ r, w.client.canSend r = true
  server : ∀ rs r name, (Http.Server.reply (Http.Server.after w.server rs) r).1 ≠ .crash name

theorem Sound.after {s : Settings} (h : Sound s u) (hex : Exchanged rs u v) : Sound s v where
  settings := hex.settings.trans h.settings
  client := by
    rw [hex.client]
    exact h.client
  server rs' := by
    rw [hex.server, ← Http.Server.after_append]
    exact h.server (rs ++ rs')

end World

/-- An endpoint takes requests with these parameters: its URL with them is one, also without a
query, its host is a proper name, and it has something like a scheme. -/
def Endpoint.Takes (endpoint : String) (params : List Url.Form.Param) : Prop :=
  ∃ u, (Url.parse endpoint).bind (fun u => u.withParams params) = .ok u ∧
    (∃ host, u.plainHost = .ok host) ∧ (∃ place, u.withQuery none = .ok place) ∧
    Http.Client.keepsCookies u = true

/-- A request that can be sent to where cookies can be kept. -/
def World.CanAsk (w : World σ τ) (r : Http.Request) : Prop :=
  w.CanSend r ∧ Http.Client.keepsCookies r.url = true

omit [Http.Server σ] in
/-- A request that is in order can be made and sent. -/
theorem Http.Request.make_ok {endpoint : String} {params : List Url.Form.Param}
    (h : Endpoint.Takes endpoint params) {fields : List (String × String)}
    (hfields : Http.Headers.areAscii fields = true) (method : String) (body : List UInt8)
    {w : World σ τ} (hclient : ∀ r, w.client.canSend r = true) :
    ∃ r, Http.Request.make method endpoint params fields body = .ok r ∧ w.CanAsk r := by
  obtain ⟨u, hu, ⟨host, hhost⟩, hplace, hcookies⟩ := h
  have hcheck : ∀ hs : Http.Headers, hs.checkHost u = .ok () := fun hs => by
    unfold Http.Headers.checkHost
    split
    · rfl
    · rw [hhost]
  unfold Http.Request.make
  rw [hu]
  simp only [hfields, if_true, hcheck]
  exact ⟨_, rfl, ⟨hplace, hclient _⟩, hcookies⟩

/-- What is kept from being sent is kept so by its header fields alone. -/
theorem Http.Request.make_not_ascii {endpoint : String} {params : List Url.Form.Param}
    (h : Endpoint.Takes endpoint params) {fields : List (String × String)}
    (hfields : Http.Headers.areAscii fields = false) (method : String) (body : List UInt8) :
    Http.Request.make method endpoint params fields body = .error .headerNotAscii := by
  obtain ⟨u, hu, -⟩ := h
  unfold Http.Request.make
  rw [hu]
  simp [hfields]

/-! ## Flows -/

namespace Flow

/-- Nothing comes out of a flow that is no fault, unless the last answer since `u` let it out. -/
structure Contains (u : World σ τ) (f : Flow (World σ τ) ε α) (w : World σ τ) : Prop where
  sends : ∃ rs, Exchanged rs w (f w).2
  escapes : ∀ e, (f w).1 = .error (.escape e) → LetOut u (f w).2 e

variable {u v w : World σ τ} {f : Flow (World σ τ) ε α}

/-- A flow that lets an escape out. -/
theorem Contains.of_escape {e : Escape} (hf : f w = (.error (.escape e), v)) {rs : List Http.Request}
    (hex : Exchanged rs w v) (hout : LetOut u v e) : Contains u f w := by
  constructor <;> rw [hf]
  · exact ⟨rs, hex⟩
  · rintro e' ⟨⟩
    exact hout

theorem Contains.from {rs : List Http.Request} (h : Contains v f w) (hex : Exchanged rs u v) :
    Contains u f w :=
  ⟨h.sends, fun e he => (h.escapes e he).after hex⟩

theorem contains_pure (u : World σ τ) (a : α) (w : World σ τ) :
    Contains u (pure a : Flow (World σ τ) ε α) w :=
  ⟨⟨[], .refl w⟩, nofun⟩

theorem contains_fail (u : World σ τ) (x : ε) (w : World σ τ) :
    Contains u (fail x : Flow (World σ τ) ε α) w :=
  ⟨⟨[], .refl w⟩, nofun⟩

theorem contains_note (u : World σ τ) (level : Logging.Level) (part message : String)
    (w : World σ τ) : Contains u (note level part message : Flow (World σ τ) ε Unit) w :=
  ⟨⟨[], .logged w _⟩, nofun⟩

theorem contains_now (u w : World σ τ) : Contains u (now : Flow (World σ τ) ε τ) w :=
  ⟨⟨[], .refl w⟩, nofun⟩

theorem contains_prepare {make : Answer.Loaded → Except Escape α} {a : α}
    (h : make w.settings = .ok a) (u : World σ τ) :
    Contains u (prepare make : Flow (World σ τ) ε α) w := by
  refine ⟨⟨[], .refl w⟩, fun e he => ?_⟩
  rw [prepare_ok h] at he
  cases he

theorem Contains.bind {g : α → Flow (World σ τ) ε β} (hf : Contains u f w)
    (hg : ∀ a v, f w = (.ok a, v) → Contains u (g a) v) : Contains u (f >>= g) w := by
  obtain ⟨⟨rs, hex⟩, hescapes⟩ := hf
  rcases hfw : f w with ⟨x | a, v⟩
  · rw [hfw] at hex hescapes
    refine ⟨⟨rs, by rw [bind_error hfw]; exact hex⟩, ?_⟩
    rw [bind_error hfw]
    rintro e ⟨⟩
    exact hescapes e rfl
  · rw [hfw] at hex
    obtain ⟨⟨rs', hex'⟩, hescapes'⟩ := hg a v hfw
    constructor
    · rw [bind_ok hfw]
      exact ⟨rs ++ rs', hex.trans hex'⟩
    · rw [bind_ok hfw]
      exact hescapes'

theorem Contains.handle {g : ε → Flow (World σ τ) δ α} (hf : Contains u f w)
    (hg : ∀ x v, Contains u (g x) v) : Contains u (f.handle g) w := by
  obtain ⟨⟨rs, hex⟩, hescapes⟩ := hf
  unfold Flow.handle
  rcases hfw : f w with ⟨(x | e) | a, v⟩ <;> rw [hfw] at hex hescapes
  · obtain ⟨⟨rs', hex'⟩, hescapes'⟩ := hg x v
    exact ⟨⟨rs ++ rs', by simpa [hfw] using hex.trans hex'⟩, by simpa [hfw] using hescapes'⟩
  · exact ⟨⟨rs, by simpa [hfw] using hex⟩, by simpa [hfw] using hescapes⟩
  · exact ⟨⟨rs, by simpa [hfw] using hex⟩, by simp [hfw]⟩

theorem Contains.mapFault (hf : Contains u f w) (g : ε → δ) : Contains u (f.mapFault g) w :=
  hf.handle fun _ v => contains_fail u _ v

/-! ### Sending and accepting -/

variable {s : Settings} {r : Http.Request}

theorem send_contains (hsound : w.Sound s) (hask : w.CanAsk r) : Contains w (send r) w := by
  obtain ⟨⟨⟨place, hplace⟩, hsend⟩, hcookies⟩ := hask
  obtain ⟨hex, hresult⟩ := send_exchanged hplace hsend
  refine ⟨⟨_, hex⟩, fun e he => ?_⟩
  rw [hresult] at he
  cases hx : w.answerTo r with
  | error f =>
    rw [hx] at he
    cases he
    have hurl : Http.Client.keepsCookies (w.client.prepare r).url = true := by
      rw [(Http.Client.prepare_url w.client r).1]
      exact hcookies
    obtain ⟨a, b, ha, hb, hstatus, hcheck⟩ := Http.Client.receive_error hx hurl
    exact .single hex (.redirect ha hb hstatus hcheck)
  | ok reply =>
    rw [hx] at he
    cases reply with
    | answer a => cases he
    | failure f => cases he
    | crash name =>
      have hcrash := Http.Client.receive_crash hx
      exact absurd hcrash (hsound.server [] _ name)

omit [Http.Server σ] in
/-- Where the settings load, reading an answer lets nothing out but the shape of a body. -/
theorem read_escape {settings : Answer.Loaded} (hs : settings = .ok s) {k : RecordKind α}
    {a : Http.Response} {e : Escape} (h : Answer.read settings k a = .error (.escape e)) :
    ∃ fault, e = .shape fault ∧ Answer.check a = .ok () ∧
      (Payload.body k.read a.body).IsBroken := by
  unfold Answer.read at h
  split at h
  · cases h
  · rename_i hcheck
    split at h
    · rename_i x hx
      cases h
      unfold Answer.checkType at hx
      rw [hs] at hx
      repeat' split at hx
      all_goals cases hx <;> contradiction
    · unfold Answer.readBody at h
      split at h <;> cases h
      rename_i fault hbroken
      exact ⟨fault, rfl, hcheck, Payload.Reading.isBroken_of_eq hbroken⟩

/-- What is accepted is the answer that was sent last. -/
theorem accept_contains (hsound : w.Sound s) {k : RecordKind α} (hk : Payload.IsRecord k)
    {a : Http.Response} (hsend : send r w = (.ok a, v)) :
    Contains w (accept k a : Flow (World σ τ) AnswerFault α) v := by
  obtain ⟨hex, hanswer, -⟩ := send_ok hsend
  refine ⟨⟨[], .refl v⟩, fun e he => ?_⟩
  have hread : Answer.read v.settings k a = .error (.escape e) := he
  obtain ⟨fault, rfl, hcheck, hbroken⟩ := read_escape (hsound.after hex).settings hread
  exact .single hex (.record hanswer hcheck (Payload.breaks_of_body hk hbroken))

theorem call_contains (hsound : w.Sound s) (hask : w.CanAsk r) {k : RecordKind α}
    (hk : Payload.IsRecord k) : Contains w (call r k) w :=
  ((send_contains hsound hask).mapFault _).bind fun _ _ hsend =>
    (accept_contains hsound hk (mapFault_eq_ok_iff.1 hsend)).mapFault _

end Flow

end Bearer
