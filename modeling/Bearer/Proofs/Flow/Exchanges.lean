import Bearer.Proofs.Flow.Sending
import Bearer.Proofs.Payload.Fields

/-!
# What is exchanged with the server

From one world to another a flow has requests sent, one after another, and the server goes on from
each to the next. So the requests that were sent tell what the client handed over for each of them,
and nothing else needs to be kept of the answers.

* `Exchanged.trans`, `handed_append`: requests sent in two runs, one after the other.
* `Brings.token`: an answer that brings a token, by the object that it is.
* `send_exchanged`: all that a request may come to.
* `call_cases`, `call_ok`: all that a call may come to, and what it takes to succeed.
* `ask_ok`, `ask_sends`: a request that is made of the settings, called, and gone on with.
-/
namespace Bearer

/-- What a client hands over for requests that a server gets one after another. -/
def Http.Client.handed {σ : Type} [Http.Server σ] (c : Http.Client) (server : σ) :
    List Http.Request → List (Except Http.RequestFault Http.Reply)
  | [] => []
  | r :: rs =>
    c.receive r (Http.Server.reply server r).1 :: c.handed (Http.Server.reply server r).2 rs

/-- A server after requests that it got one after another. -/
def Http.Server.after {σ : Type} [Http.Server σ] (server : σ) (rs : List Http.Request) : σ :=
  rs.foldl (fun s r => (Http.Server.reply s r).2) server

theorem Http.Server.after_append {σ : Type} [Http.Server σ] (server : σ)
    (rs rs' : List Http.Request) :
    Http.Server.after server (rs ++ rs') = Http.Server.after (Http.Server.after server rs) rs' :=
  List.foldl_append

theorem Http.Client.handed_append {σ : Type} [Http.Server σ] (c : Http.Client) (server : σ)
    (rs rs' : List Http.Request) :
    c.handed server (rs ++ rs') = c.handed server rs ++ c.handed (Http.Server.after server rs) rs' := by
  induction rs generalizing server with
  | nil => rfl
  | cons r rs ih => exact congrArg _ (ih _)

namespace World

variable {σ τ : Type} [Http.Server σ]

/-- What the client hands over for requests that are sent one after another from here on. -/
def handed (w : World σ τ) (rs : List Http.Request) : List (Except Http.RequestFault Http.Reply) :=
  w.client.handed w.server rs

/-- What the client hands over for a request. -/
def answerTo (w : World σ τ) (r : Http.Request) : Except Http.RequestFault Http.Reply :=
  w.client.receive (w.client.prepare r) (Http.Server.reply w.server (w.client.prepare r)).1

/-- From `w` to `w'` these requests are sent, one after another, and no others. -/
structure Exchanged (rs : List Http.Request) (w w' : World σ τ) : Prop where
  sent : w'.sent.toList = w.sent.toList ++ rs
  server : w'.server = Http.Server.after w.server rs
  client : w'.client = w.client
  settings : w'.settings = w.settings

theorem handed_prepared (w : World σ τ) (r : Http.Request) :
    w.handed [w.client.prepare r] = [w.answerTo r] := rfl

/-- From `w` to `w'` a request alone is sent, and its answer brings a record. -/
structure Brings {α : Type} (w : World σ τ) (request : Http.Request) (k : RecordKind α) (record : α)
    (w' : World σ τ) : Prop where
  exchanged : Exchanged [w.client.prepare request] w w'
  answered : ∃ a, w.answerTo request = .ok (.answer a) ∧ Answer.read w.settings k a = .ok record
  now : w'.now = w.answerTime

/-- From `w` to `w'` a request alone is sent, and its answer brings a token. Its body is an object
in which the parts of the record stand. -/
structure BringsToken (w : World σ τ) (request : Http.Request) (answer : TokenAnswer)
    (w' : World σ τ) : Prop extends w.Brings request .token answer w' where
  said : ∃ a fields, w.answerTo request = .ok (.answer a) ∧ Answer.IsObject a.body fields ∧
    Payload.TokenFields fields answer

theorem Brings.token {w w' : World σ τ} {request : Http.Request} {answer : TokenAnswer}
    (h : w.Brings request .token answer w') : w.BringsToken request answer w' where
  toBrings := h
  said := by
    obtain ⟨a, ha, hread⟩ := h.answered
    obtain ⟨fields, hobject, hfields⟩ := Answer.read_token hread
    exact ⟨a, fields, ha, hobject, hfields⟩

namespace Exchanged

variable {rs rs' : List Http.Request} {u v w : World σ τ}

theorem refl (w : World σ τ) : Exchanged [] w w := ⟨by simp, rfl, rfl, rfl⟩

theorem logged (w : World σ τ) (l : Logging.Record) : Exchanged [] w (w.logged l) :=
  ⟨by simp [World.logged], rfl, rfl, rfl⟩

theorem trans (h : Exchanged rs u v) (h' : Exchanged rs' v w) : Exchanged (rs ++ rs') u w where
  sent := by rw [h'.sent, h.sent, List.append_assoc]
  server := by rw [h'.server, h.server, Http.Server.after_append]
  client := h'.client.trans h.client
  settings := h'.settings.trans h.settings

theorem unique (h : Exchanged rs u v) (h' : Exchanged rs' u v) : rs = rs' :=
  List.append_cancel_left (h.sent.symm.trans h'.sent)

/-- What is done without sending anything does not count. -/
theorem quiet (h : Exchanged rs u v) (h' : Exchanged [] v w) : Exchanged rs u w := by
  simpa using h.trans h'

theorem handed_append (h : Exchanged rs u v) (rs' : List Http.Request) :
    u.handed (rs ++ rs') = u.handed rs ++ v.handed rs' := by
  unfold World.handed
  rw [Http.Client.handed_append, h.client, h.server]

end Exchanged

theorem Brings.logged {α : Type} {u v : World σ τ} {r : Http.Request} {k : RecordKind α} {record : α}
    (h : u.Brings r k record v) (l : Logging.Record) : u.Brings r k record (v.logged l) :=
  ⟨h.exchanged.quiet (.logged v l), h.answered, h.now⟩

end World

namespace Flow

open World

variable {σ τ ε α : Type} [Http.Server σ]

/-- What goes on quietly behind a flow adds nothing to what it sends. -/
theorem bind_exchanged {β : Type} {f : Flow (World σ τ) ε α} {g : α → Flow (World σ τ) ε β}
    {rs : List Http.Request} {u w : World σ τ} (hf : Exchanged rs u (f w).2)
    (hg : ∀ a v, Exchanged [] v (g a v).2) : Exchanged rs u ((f >>= g) w).2 := by
  rw [bind_apply]
  split
  · rename_i a v h
    rw [h] at hf
    exact hf.quiet (hg a v)
  · rename_i e v h
    rw [h] at hf
    exact hf

/-! ## A request -/

/-- What a request comes to that was sent to a place, by what the client hands over. -/
def sendResult (place : String) :
    Except Http.RequestFault Http.Reply → Except (Failure SendFault) Http.Response
  | .ok (.answer a) => .ok a
  | .ok (.failure f) => .error (.fault ⟨place, f⟩)
  | .ok (.crash name) => .error (.escape (.crash name))
  | .error f => .error (.escape (.request f))

theorem sendResult_eq_ok_iff {place : String} {x : Except Http.RequestFault Http.Reply}
    {a : Http.Response} : sendResult place x = .ok a ↔ x = .ok (.answer a) := by
  rcases x with f | a | f | name <;> simp [sendResult]

theorem exchange_eq {r : Http.Request} {w : World σ τ} (h : w.client.canSend r = true) :
    (exchange r : Flow (World σ τ) ε Http.Reply) w =
      ((w.answerTo r).mapError fun f => .escape (.request f),
        { w with
          server := (Http.Server.reply w.server (w.client.prepare r)).2
          sent := w.sent.add (w.client.prepare r)
          now := w.answerTime }) := by
  unfold exchange
  rw [if_pos h]
  rfl

/-- A request that the client can send is exchanged for what the client hands over. -/
theorem send_exchanged {r : Http.Request} {w : World σ τ} {u : Url}
    (hu : r.url.withQuery none = .ok u) (hsend : w.client.canSend r = true) :
    Exchanged [w.client.prepare r] w (send r w).2 ∧
      (send r w).1 = sendResult u.text (w.answerTo r) := by
  unfold send
  rw [bind_ok (place_ok hu), bind_ok (note_apply _ _ _ w)]
  have hex := exchange_eq (ε := SendFault) (w := w.logged ⟨.debug, Logging.loggerOf "client",
    r.method ++ " " ++ u.text⟩) hsend
  have hanswer : (w.logged ⟨.debug, Logging.loggerOf "client",
    r.method ++ " " ++ u.text⟩).answerTo r = w.answerTo r := rfl
  rw [hanswer] at hex
  rcases hx : w.answerTo r with f | a | f | name <;> rw [hx] at hex
  · rw [bind_error hex]
    exact ⟨⟨by simp [World.logged], rfl, rfl, rfl⟩, rfl⟩
  all_goals
    rw [bind_ok hex]
    exact ⟨⟨by simp [World.logged, bind_apply, note_apply], rfl, rfl, rfl⟩, rfl⟩

/-- A request that it cannot send is not exchanged for anything. -/
theorem send_unsent {r : Http.Request} {w : World σ τ} (h : ¬w.CanSend r) :
    Exchanged [] w (send r w).2 ∧ ∃ e, (send r w).1 = .error (.escape e) := by
  refine ⟨?_, (send_quiet h).2⟩
  unfold send
  rw [bind_apply]
  cases hu : r.url.withQuery none with
  | error e =>
    simp only [place, hu, escape_apply]
    exact .refl w
  | ok u =>
    have hrefused : w.client.canSend r ≠ true := fun hsend => h ⟨⟨u, hu⟩, hsend⟩
    simp only [place_ok hu]
    rw [bind_ok (note_apply _ _ _ w), bind_error (exchange_refused (w := w.logged _) hrefused)]
    exact .logged w _

/-- What it takes for a request to bring an answer. -/
theorem send_ok {r : Http.Request} {w w' : World σ τ} {a : Http.Response}
    (h : send r w = (.ok a, w')) :
    Exchanged [w.client.prepare r] w w' ∧ w.answerTo r = .ok (.answer a) ∧
      w'.now = w.answerTime := by
  by_cases hcan : w.CanSend r
  · have hnow := (send_answered hcan).now
    obtain ⟨⟨u, hu⟩, hsend⟩ := hcan
    obtain ⟨hex, hresult⟩ := send_exchanged hu hsend
    rw [h] at hex hresult hnow
    exact ⟨hex, sendResult_eq_ok_iff.1 hresult.symm, hnow⟩
  · obtain ⟨-, e, he⟩ := send_unsent hcan
    rw [h] at he
    cases he

/-- Whatever comes of a request, it is sent once or not at all. -/
theorem send_sends (r : Http.Request) (w : World σ τ) :
    ∃ rs, Exchanged rs w (send r w).2 ∧ (rs = [] ∨ rs = [w.client.prepare r]) := by
  by_cases hcan : w.CanSend r
  · obtain ⟨⟨u, hu⟩, hsend⟩ := hcan
    exact ⟨_, (send_exchanged hu hsend).1, .inr rfl⟩
  · exact ⟨_, (send_unsent hcan).1, .inl rfl⟩

/-! ## A call -/

/-- Either the request of a call brought no answer, or the call comes to what the answer reads as.
-/
theorem call_cases {r : Http.Request} {k : RecordKind α} {w w' : World σ τ}
    {result : Except (Failure CallFault) α} (h : call r k w = (result, w')) :
    (∃ e, send r w = (.error e, w') ∧ result = .error (e.map .send)) ∨
      ∃ a, send r w = (.ok a, w') ∧
        result = (Answer.read w.settings k a).mapError (Failure.map .answer) := by
  unfold call at h
  rw [bind_apply, mapFault_apply] at h
  cases hs : send r w with
  | mk x v =>
    rw [hs] at h
    cases x with
    | error e =>
      cases h
      exact .inl ⟨e, rfl, rfl⟩
    | ok a =>
      -- the settings that the answer is read with are those of the beginning
      have hsettings := (send_ok hs).1.settings
      simp only [mapError_ok] at h
      rw [mapFault_apply] at h
      cases h
      exact .inr ⟨a, rfl, by rw [← hsettings]; rfl⟩

/-- What it takes for a call to succeed. -/
theorem call_ok {r : Http.Request} {k : RecordKind α} {w w' : World σ τ} {record : α}
    (h : call r k w = (.ok record, w')) : w.Brings r k record w' := by
  rcases call_cases h with ⟨e, -, he⟩ | ⟨a, hs, hread⟩
  · cases he
  · obtain ⟨hex, hanswer, hnow⟩ := send_ok hs
    exact ⟨hex, ⟨a, hanswer, mapError_eq_ok_iff.1 hread.symm⟩, hnow⟩

theorem call_sends (r : Http.Request) (k : RecordKind α) (w : World σ τ) :
    ∃ rs, Exchanged rs w (call r k w).2 ∧ (rs = [] ∨ rs = [w.client.prepare r]) := by
  have hworld : (send r w).2 = (call r k w).2 := by
    rcases call_cases (Prod.eta (call r k w)).symm with ⟨e, hs, -⟩ | ⟨a, hs, -⟩ <;> rw [hs]
  rw [← hworld]
  exact send_sends r w

/-! ## A call of a request that is made of the settings -/

variable {β : Type} {make : Answer.Loaded → Except Escape Http.Request} {k : RecordKind α}
  {g : CallFault → ε} {rest : α → Flow (World σ τ) ε β}

/-- What it takes to get past the call. -/
theorem ask_ok {w w' : World σ τ} {b : β}
    (h : (prepare make >>= fun r => (call r k).mapFault g >>= rest) w = (.ok b, w')) :
    ∃ request record v, make w.settings = .ok request ∧ w.Brings request k record v ∧
      rest record v = (.ok b, w') := by
  rcases bind_cases h with ⟨e, -, he⟩ | ⟨request, v, hmade, h⟩
  · cases he
  · rw [prepare_apply] at hmade
    cases hmade' : make w.settings with
    | error e => rw [hmade'] at hmade; cases hmade
    | ok r =>
      rw [hmade'] at hmade
      cases hmade
      rcases bind_cases h with ⟨e, -, he⟩ | ⟨record, v, hcall, h⟩
      · cases he
      · exact ⟨request, record, v, rfl, call_ok (mapFault_eq_ok_iff.1 hcall), h⟩

/-- What is done quietly behind the call adds nothing to what is sent. -/
theorem ask_sends (hrest : ∀ a v, Exchanged [] v (rest a v).2) (w : World σ τ) :
    ∃ rs, Exchanged rs w ((prepare make >>= fun r => (call r k).mapFault g >>= rest) w).2 ∧
      (rs = [] ∨ ∃ request, make w.settings = .ok request ∧ rs = [w.client.prepare request]) := by
  cases hmade : make w.settings with
  | error e =>
    rw [bind_error (prepare_error hmade)]
    exact ⟨[], .refl w, .inl rfl⟩
  | ok request =>
    rw [bind_ok (prepare_ok hmade)]
    obtain ⟨rs, hex, hrs⟩ := call_sends request k w
    refine ⟨rs, bind_exchanged ?_ hrest, hrs.imp_right fun hrs => ⟨request, rfl, hrs⟩⟩
    rw [mapFault_apply]
    exact hex

end Flow

end Bearer
