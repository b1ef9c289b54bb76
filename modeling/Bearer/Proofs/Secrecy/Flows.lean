import Bearer.Flow.Send
import Bearer.Proofs.Secrecy.Requests
import Mathlib.Data.List.Forall2

/-!
# Flows that agree

Two flows agree if in worlds that look alike they do alike: both end with the same failure, or both
with results that are related, and the worlds look alike again. In worlds that look alike the same
was logged and slept, and requests were sent that look alike. Nothing is said of runs of which one
has made a URL that is too long.

* `Agree.bind`, `Agree.handle`: flows that are made of flows that agree.
* `agree_note`, `agree_sleep`, `agree_prepare`: flows that send nothing.
* `agree_send`, `agree_call`: requests that look alike, sent to a server that cannot tell them
  apart.
-/
namespace Bearer

open Http (Request)

/-- A URL was too long. -/
def Escape.IsTooLong (e : Escape) : Prop :=
  e = .request (.url .tooLong)

/-- A URL was too long. -/
def Failure.IsTooLong {ε : Type} (e : Failure ε) : Prop :=
  e = .escape (.request (.url .tooLong))

theorem Failure.isTooLong {ε : Type} :
    (Failure.escape (.request (.url .tooLong)) : Failure ε).IsTooLong := rfl

/-- Two worlds that differ in nothing but that the requests sent only look alike. -/
structure World.LooksLike {σ τ : Type} (w w' : World σ τ) : Prop where
  server : w.server = w'.server
  client : w.client = w'.client
  settings : w.settings = w'.settings
  now : w.now = w'.now
  sent : List.Forall₂ Request.LooksLike w.sent.newestFirst w'.sent.newestFirst
  log : w.log = w'.log
  slept : w.slept = w'.slept
  answeredAt : w.answeredAt = w'.answeredAt

theorem World.LooksLike.answerTime {σ τ : Type} {w w' : World σ τ} (h : w.LooksLike w') :
    w.answerTime = w'.answerTime := by
  unfold World.answerTime
  rw [h.answeredAt, h.sent.length_eq, h.now]

namespace Flow

variable {σ τ ε δ α α' β β' : Type}

/-- Two runs that end alike, unless one of them has made a URL that is too long. -/
inductive EndAlike (R : α → β → Prop) :
    Except (Failure ε) α × World σ τ → Except (Failure ε) β × World σ τ → Prop
  | left {e : Failure ε} (h : e.IsTooLong) (w : World σ τ) (run : Except (Failure ε) β × World σ τ) :
      EndAlike R (.error e, w) run
  | right {e : Failure ε} (h : e.IsTooLong) (w : World σ τ)
      (run : Except (Failure ε) α × World σ τ) : EndAlike R run (.error e, w)
  | error (e : Failure ε) {w w' : World σ τ} (hw : w.LooksLike w') :
      EndAlike R (.error e, w) (.error e, w')
  | ok {a : α} {b : β} (h : R a b) {w w' : World σ τ} (hw : w.LooksLike w') :
      EndAlike R (.ok a, w) (.ok b, w')

theorem EndAlike.of_alike {R : α → β → Prop} {x : Except (Failure ε) α} {y : Except (Failure ε) β}
    (h : Alike Failure.IsTooLong R x y) {w w' : World σ τ} (hw : w.LooksLike w') :
    EndAlike R (x, w) (y, w') := by
  cases h with
  | left he y => exact .left he w _
  | right he x => exact .right he w' _
  | error e => exact .error e hw
  | ok h => exact .ok h hw

/-- Two flows that run alike. -/
def Agree (R : α → β → Prop) (f : Flow (World σ τ) ε α) (g : Flow (World σ τ) ε β) : Prop :=
  ∀ w w', w.LooksLike w' → EndAlike R (f w) (g w')

variable {R : α → α' → Prop} {S : β → β' → Prop} {f : Flow (World σ τ) ε α}
  {f' : Flow (World σ τ) ε α'}

theorem agree_pure {a : α} {b : α'} (h : R a b) :
    Agree R (pure a : Flow (World σ τ) ε α) (pure b) :=
  fun _ _ hw => .ok h hw

theorem agree_fail (e : ε) : Agree R (fail e : Flow (World σ τ) ε α) (fail e) :=
  fun _ _ hw => .error _ hw

theorem agree_escape (e : Escape) : Agree R (escape e : Flow (World σ τ) ε α) (escape e) :=
  fun _ _ hw => .error _ hw

theorem Agree.bind (h : Agree R f f') {g : α → Flow (World σ τ) ε β}
    {g' : α' → Flow (World σ τ) ε β'} (hg : ∀ a b, R a b → Agree S (g a) (g' b)) :
    Agree S (f >>= g) (f' >>= g') := by
  intro w w' hw
  have hrun := h w w' hw
  rw [bind_apply, bind_apply]
  generalize f w = x at hrun
  generalize f' w' = y at hrun
  cases hrun with
  | left he v run => exact .left he v _
  | right he v run => exact .right he v _
  | error e hv => exact .error e hv
  | ok hab hv => exact hg _ _ hab _ _ hv

/-- Handlers of the same fault agree, and so do the flows whose faults they handle. -/
theorem Agree.handle {f' : Flow (World σ τ) ε α'} (h : Agree R f f')
    {g : ε → Flow (World σ τ) δ α} {g' : ε → Flow (World σ τ) δ α'}
    (hg : ∀ e, Agree R (g e) (g' e)) : Agree R (f.handle g) (f'.handle g') := by
  intro w w' hw
  have hrun := h w w' hw
  unfold Flow.handle
  generalize f w = x at hrun
  generalize f' w' = y at hrun
  cases hrun with
  | left he v run =>
    cases he
    exact .left Failure.isTooLong v _
  | right he v run =>
    cases he
    exact .right Failure.isTooLong v _
  | error e hv =>
    cases e with
    | fault e => exact hg e _ _ hv
    | escape e => exact .error _ hv
  | ok hab hv => exact .ok hab hv

theorem Agree.mapFault (h : Agree R f f') (g : ε → δ) : Agree R (f.mapFault g) (f'.mapFault g) :=
  h.handle fun e => agree_fail (g e)

theorem agree_change {g : World σ τ → World σ τ} (hg : ∀ w w', w.LooksLike w' → (g w).LooksLike (g w')) :
    Agree Eq (change g : Flow (World σ τ) ε Unit) (change g) :=
  fun _ _ hw => .ok rfl (hg _ _ hw)

theorem agree_note (level : Logging.Level) (part message : String) :
    Agree Eq (note level part message : Flow (World σ τ) ε Unit) (note level part message) :=
  agree_change fun _ _ hw => { hw with log := by simp only [World.logged, hw.log] }

theorem agree_now : Agree Eq (now : Flow (World σ τ) ε τ) now :=
  fun _ _ hw => .ok hw.now hw

/-- Plain sleeping goes by nothing that was sent. -/
theorem agree_sleep [Time.Clock τ] (length : τ) :
    Agree Eq (sleep length : Flow (World σ τ) ε Unit) (sleep length) :=
  agree_change fun _ _ hw =>
    { hw with
      now := by simp only [World.rested, World.advanced, hw.now]
      slept := by simp only [World.rested, hw.slept] }

/-- What is made of the settings is made alike in both worlds. -/
theorem agree_prepare {make : Answer.Loaded → Except Escape α}
    {make' : Answer.Loaded → Except Escape α'}
    (h : ∀ settings, Alike Escape.IsTooLong R (make settings) (make' settings)) :
    Agree R (prepare make : Flow (World σ τ) ε α) (prepare make') := by
  intro w w' hw
  rw [prepare_apply, prepare_apply, ← hw.settings]
  refine .of_alike ((h w.settings).mapError fun e he => ?_) hw
  rw [he]
  exact Failure.isTooLong

/-! ## Sending -/

theorem place_looksLike {r r' : Request} (h : r.LooksLike r') :
    (place r : Flow (World σ τ) ε String) = place r' := by
  unfold place
  rw [h.url.withQuery_none]

theorem agree_place {r r' : Request} (h : r.LooksLike r') :
    Agree Eq (place r : Flow (World σ τ) ε String) (place r') := by
  rw [place_looksLike h]
  unfold place
  split
  · exact agree_pure rfl
  · exact agree_escape _

variable [Http.Server σ] {r r' : Request}

theorem agree_exchange (hblind : Http.Server.IsBlind σ) (h : r.LooksLike r') :
    Agree Eq (exchange r : Flow (World σ τ) ε Http.Reply) (exchange r') := by
  intro w w' hw
  have hprepared := Http.Client.prepare_looksLike h w.client
  unfold exchange
  rw [← hw.client, Http.Client.canSend_looksLike h]
  split
  · simp only [← hw.server, hblind w.server _ _ hprepared]
    refine .of_alike ((Http.Client.receive_alike hprepared w.client _).mapError fun e he => ?_) ?_
    · rw [he]
      exact Failure.isTooLong
    · exact { hw with
        server := rfl
        client := rfl
        now := hw.answerTime
        sent := .cons hprepared hw.sent }
  · exact .error _ hw

/-- Requests that look alike are sent alike. -/
theorem agree_send (hblind : Http.Server.IsBlind σ) (h : r.LooksLike r') :
    Agree Eq (send r : Flow (World σ τ) SendFault Http.Response) (send r') := by
  unfold send
  rw [h.method]
  refine (agree_place h).bind fun place _ hplace => ?_
  subst hplace
  refine (agree_note _ _ _).bind fun _ _ _ => ?_
  refine (agree_exchange hblind h).bind fun reply _ hreply => ?_
  subst hreply
  cases reply with
  | answer response => exact (agree_note _ _ _).bind fun _ _ _ => agree_pure rfl
  | failure f => exact agree_fail _
  | crash name => exact agree_escape _

omit [Http.Server σ] in
theorem agree_accept (k : RecordKind α) (a : Http.Response) :
    Agree Eq (accept k a : Flow (World σ τ) AnswerFault α) (accept k a) := by
  intro w w' hw
  show EndAlike Eq (Answer.read w.settings k a, w) (Answer.read w'.settings k a, w')
  rw [← hw.settings]
  exact .of_alike (.of_eq rfl) hw

/-- Calls whose requests look alike agree. -/
theorem agree_call (hblind : Http.Server.IsBlind σ) (h : r.LooksLike r') (k : RecordKind α) :
    Agree Eq (call r k : Flow (World σ τ) CallFault α) (call r' k) := by
  unfold call
  refine ((agree_send hblind h).mapFault _).bind fun response _ hresponse => ?_
  subst hresponse
  exact (agree_accept k response).mapFault _

end Flow

end Bearer
