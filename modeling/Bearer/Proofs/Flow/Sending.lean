import Bearer.Flow.Send
import Bearer.Proofs.Flow.Cases

/-!
# What calls do to the world

A call gives at most one request to the client. Either the client takes it: then it is sent as the
client prepares it, and the clock reads what it does when the answer comes. Or the request cannot be
sent at all: then the world stays as it was, the log apart, and the call breaks off. What comes of
an answer changes neither what was sent nor the clock.

* `send_answered`, `send_quiet`: the two ways of a request.
* `call_answered`, `call_quiet`: the same of a call.
-/
namespace Bearer

namespace World

variable {σ τ : Type}

/-- The client can send the request. -/
def CanSend (w : World σ τ) (r : Http.Request) : Prop :=
  (∃ u, r.url.withQuery none = .ok u) ∧ w.client.canSend r = true

/-- From `w` to `w'` nothing is sent and the clock stands still. -/
structure Quiet (w w' : World σ τ) : Prop where
  sent : w'.sent = w.sent
  now : w'.now = w.now

/-- From `w` to `w'` the request alone is sent, and the clock goes on to its answer. -/
structure Answered (r : Http.Request) (w w' : World σ τ) : Prop where
  sent : w'.sent = w.sent.add (w.client.prepare r)
  now : w'.now = w.answerTime

theorem Quiet.refl (w : World σ τ) : Quiet w w := ⟨rfl, rfl⟩

theorem Quiet.logged (w : World σ τ) (l : Logging.Record) : Quiet w (w.logged l) := ⟨rfl, rfl⟩

theorem Answered.quiet {r : Http.Request} {u v w : World σ τ} (h : Answered r u v)
    (h' : Quiet v w) : Answered r u w :=
  ⟨h'.sent.trans h.sent, h'.now.trans h.now⟩

/-- What is logged before a request is sent does not matter. -/
theorem Answered.of_logged {r : Http.Request} {w w' : World σ τ} {l : Logging.Record}
    (h : Answered r (w.logged l) w') : Answered r w w' :=
  ⟨h.sent, h.now⟩

end World

namespace Flow

open World

variable {σ τ ε α : Type}

/-- What goes on quietly behind a flow leaves the world as the flow did. -/
theorem bind_quiet {β : Type} {f : Flow (World σ τ) ε α} {g : α → Flow (World σ τ) ε β}
    (hg : ∀ a v, Quiet v (g a v).2) (w : World σ τ) : Quiet (f w).2 ((f >>= g) w).2 := by
  rw [bind_apply]
  split
  · rename_i a v hf
    rw [hf]
    exact hg a v
  · rename_i e v hf
    rw [hf]
    exact .refl v

theorem place_ok {w : World σ τ} {r : Http.Request} {u : Url} (h : r.url.withQuery none = .ok u) :
    (place r : Flow (World σ τ) ε String) w = (.ok u.text, w) := by
  unfold place
  rw [h]
  rfl

variable [Http.Server σ]

theorem exchange_answered {r : Http.Request} {w : World σ τ} (h : w.client.canSend r = true) :
    Answered r w ((exchange r : Flow (World σ τ) ε Http.Reply) w).2 := by
  unfold exchange
  rw [if_pos h]
  exact ⟨rfl, rfl⟩

theorem exchange_refused {r : Http.Request} {w : World σ τ} (h : w.client.canSend r ≠ true) :
    (exchange r : Flow (World σ τ) ε Http.Reply) w =
      (.error (.escape (.request .headerNotAscii)), w) := by
  unfold exchange
  rw [if_neg h]

/-- A request that the client can send is sent, whatever comes of it. -/
theorem send_answered {r : Http.Request} {w : World σ τ} (h : w.CanSend r) :
    Answered r w (send r w).2 := by
  obtain ⟨⟨u, hu⟩, hsend⟩ := h
  unfold send
  rw [bind_ok (place_ok hu), bind_ok (note_apply _ _ _ w)]
  refine (Answered.of_logged (exchange_answered (w := w.logged _) hsend)).quiet (bind_quiet ?_ _)
  intro reply v
  cases reply with
  | answer response => exact .logged v _
  | failure f => exact .refl v
  | crash name => exact .refl v

/-- A request that it cannot send is not, and the flow breaks off. -/
theorem send_quiet {r : Http.Request} {w : World σ τ} (h : ¬w.CanSend r) :
    Quiet w (send r w).2 ∧ ∃ e, (send r w).1 = .error (.escape e) := by
  cases hu : r.url.withQuery none with
  | error e =>
    have hplace : (place r : Flow (World σ τ) SendFault String) w =
        (.error (.escape (.request (.url e))), w) := by
      unfold place
      rw [hu]
      rfl
    unfold send
    rw [bind_error hplace]
    exact ⟨.refl w, _, rfl⟩
  | ok u =>
    have hrefused : w.client.canSend r ≠ true := fun hsend => h ⟨⟨u, hu⟩, hsend⟩
    unfold send
    rw [bind_ok (place_ok hu), bind_ok (note_apply _ _ _ w),
      bind_error (exchange_refused (w := w.logged _) hrefused)]
    exact ⟨.logged w _, _, rfl⟩

/-- What a call does with a request that the client can send. -/
theorem call_answered {r : Http.Request} {w : World σ τ} (h : w.CanSend r) (k : RecordKind α) :
    Answered r w (call r k w).2 := by
  have hsent : Answered r w ((send r).mapFault CallFault.send w).2 := by
    rw [mapFault_apply]
    exact send_answered h
  refine hsent.quiet (bind_quiet (fun response v => ?_) w)
  rw [mapFault_apply]
  exact .refl v

/-- What it does with one that it cannot send. -/
theorem call_quiet {r : Http.Request} {w : World σ τ} (h : ¬w.CanSend r) (k : RecordKind α) :
    Quiet w (call r k w).2 ∧ ∃ e, (call r k w).1 = .error (.escape e) := by
  obtain ⟨hquiet, e, he⟩ := send_quiet h
  unfold call
  rw [bind_error (mapFault_eq CallFault.send (Prod.ext he rfl))]
  exact ⟨hquiet, e, rfl⟩

end Flow

end Bearer
