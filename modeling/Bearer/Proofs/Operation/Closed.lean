import Bearer.Http.Script
import Bearer.Proofs.Flow.Closing
import Bearer.Proofs.Operation.Basic
import Bearer.Proofs.Token.Alone

/-!
# Operations fail closed

An operation that succeeds has built on answers of success only: their status is that of success,
none of them is a refusal whatever else its body holds, and they pass for JSON where a record is
read from them. The one refusal that is no failure is that of a poll whose user has not answered
yet.

* `validate_closed`, `refreshed_closed`, `exchangeCode_closed`: flows that build on accepted
  answers.
* `pollWith_some`, `isPending_iff`: what a poll builds on, and what it takes for pending.
* `pollLoop_cases`: what the polls of a wait come to.
* `poll_pending_iff`: the one refusal that is no failure.
* `fails_closed`: all operations.
-/
namespace Bearer

open World

variable {σ τ ε δ α β : Type} [Http.Server σ]

namespace Flow

theorem Closed.seenAs {typed : Bool} {n : Nat} {f : Flow (World σ τ) ε α} (hf : Closed typed n f)
    (onFault : ε → δ) (onResult : α → β) : Closed typed n (f.seenAs onFault onResult) :=
  (hf.mapFault onFault).bind fun _ => closed_pure _

end Flow

/-! ## The endpoints -/

namespace Endpoint

open Bearer.Flow

/-- The status of a token that is not authorized is looked at first, but it is none of success. -/
theorem validate_closed (access : Option AccessToken) :
    Closed true 1 (validate access : Flow (World σ τ) ValidationFault Validation) := by
  refine (closed_prepare _).bind (n := 1) fun request => closed_send fun x v v' a h => ?_
  split at h
  · cases h
  · rcases bind_cases h with ⟨e, -, he⟩ | ⟨validation, u, hread, hnote⟩
    · cases he
    · obtain ⟨hread, rfl⟩ := accept_ok (mapFault_eq_ok_iff.1 hread)
      cases hnote
      exact ⟨.logged _ _, Answer.accepted_of_read hread⟩

/-- A revocation needs no record, so the type of its answer does not matter. -/
theorem revoke_closed (access : Option AccessToken) (client : Option ClientId) :
    Closed false 1 (revoke access client : Flow (World σ τ) RevocationFault Unit) := by
  refine (closed_prepare _).bind (n := 1) fun request => closed_send fun x v v' a h => ?_
  cases hcheck : Answer.check x with
  | error f =>
    simp only [hcheck] at h
    cases h
  | ok _ =>
    simp only [hcheck] at h
    cases h
    exact ⟨.logged _ _, Answer.accepted_of_check hcheck _⟩

theorem refresh_closed (token : Option RefreshToken) (client : Option ClientId)
    (secret : Option ClientSecret) :
    Closed true 1 (refresh token client secret : Flow (World σ τ) RefreshFault Refreshed) := by
  refine (closed_prepare _).bind (n := 1) fun request => ?_
  refine ((closed_call request .token).mapFault _).bind (n := 0) fun answer => ?_
  cases answer.expiresIn with
  | none => exact closed_fail _
  | some span => exact (closed_note _ _ _).bind fun _ => closed_pure _

theorem credentials_closed (client : Option ClientId) (secret : Option ClientSecret)
    (scopes : List Scope) :
    Closed true 1 (credentials client secret scopes :
      Flow (World σ τ) CredentialsFault TokenAnswer) :=
  (closed_prepare _).bind fun request =>
    ((closed_call request .token).mapFault _).bind fun _ =>
      (closed_note _ _ _).bind fun _ => closed_pure _

end Endpoint

/-! ## Tokens and browser flows -/

open Bearer.Flow

theorem AppToken.obtain_closed (client : Option ClientId) (secret : Option ClientSecret)
    (scopes : List Scope) :
    Closed true 1 (AppToken.obtain client secret scopes :
      Flow (World σ τ) CredentialsFault (AppToken τ)) :=
  (Endpoint.credentials_closed client secret scopes).bind fun _ =>
    closed_now.bind fun _ => closed_pure _

theorem AppToken.ofExisting_closed (access : Option AccessToken) (spare : Option RefreshToken)
    (secret : Option ClientSecret) :
    Closed true 1 (AppToken.ofExisting access spare secret :
      Flow (World σ τ) ValidationFault (AppToken τ)) :=
  (Endpoint.validate_closed access).bind fun _ => closed_now.bind fun _ => closed_pure _

theorem UserToken.assemble_closed (v : Validation) (access : Option AccessToken)
    (spare : Option RefreshToken) (secret : Option ClientSecret) :
    Closed true 0 (UserToken.assemble v access spare secret :
      Flow (World σ τ) ValidationFault (UserToken τ)) := by
  refine closed_now.bind (n := 0) fun now => ?_
  cases UserToken.ofValidation? v access spare secret now with
  | some t => exact closed_pure t
  | none => exact closed_fail _

theorem UserToken.ofExisting_closed (access : Option AccessToken) (spare : Option RefreshToken)
    (secret : Option ClientSecret) :
    Closed true 1 (UserToken.ofExisting access spare secret :
      Flow (World σ τ) ValidationFault (UserToken τ)) :=
  (Endpoint.validate_closed access).bind fun v => UserToken.assemble_closed v access spare secret

theorem Token.refreshed_closed (t : Token τ) :
    Closed true 1 (t.refreshed : Flow (World σ τ) RefreshFault (Token τ)) := by
  cases t with
  | app a =>
    refine Closed.bind (m := 1) (n := 0) ?_ fun _ => closed_pure _
    unfold AppToken.refreshed
    cases a.refreshToken with
    | some r =>
      exact (Endpoint.refresh_closed (some r) _ _).bind fun _ => closed_now.bind fun _ =>
        closed_pure _
    | none =>
      exact ((AppToken.obtain_closed _ _ _).mapFault _).bind fun _ => closed_pure _
  | user u =>
    refine Closed.bind (m := 1) (n := 0) ?_ fun _ => closed_pure _
    unfold UserToken.refreshed
    cases u.refreshToken with
    | some r =>
      exact (Endpoint.refresh_closed (some r) _ _).bind fun _ => closed_now.bind fun _ =>
        closed_pure _
    | none => exact closed_fail _

/-- An exchange builds on two answers: to the code and to the token that it brought. -/
theorem BrowserGrant.exchangeCode_closed (g : BrowserGrant) (secret : Option ClientSecret)
    (state : Option String) (code : String) :
    Closed true 2 (g.exchangeCode secret state code : Flow (World σ τ) CodeFault (UserToken τ)) := by
  refine (closed_prepare _).bind (n := 2) fun isValid => ?_
  cases isValid with
  | false => exact closed_fail _
  | true =>
    exact (closed_prepare _).bind (n := 2) fun request =>
      ((closed_call request .token).mapFault _).bind (n := 1) fun answer =>
        ((UserToken.ofExisting_closed _ _ _).mapFault _).bind fun _ =>
          (closed_note _ _ _).bind fun _ => closed_pure _

theorem BrowserGrant.acceptToken_closed (g : BrowserGrant) (r : ImplicitRedirect) :
    Closed true 1 (g.acceptToken r : Flow (World σ τ) ImplicitFault (UserToken τ)) := by
  unfold BrowserGrant.acceptToken
  split
  · cases r.accessToken with
    | none => exact closed_fail _
    | some access =>
      exact ((UserToken.ofExisting_closed _ _ _).mapFault _).bind fun _ =>
        (closed_note _ _ _).bind fun _ => closed_pure _
  · exact closed_fail _

/-! ## Device flows -/

namespace DeviceGrant

omit [Http.Server σ] in
/-- The only fault of a poll that means that the user has not answered yet. -/
theorem pollFault_ok_iff {f : CallFault} {w w' : World σ τ} {out : Option TokenAnswer} :
    pollFault f w = (.ok out, w') ↔
      out = none ∧ w' = w ∧ ∃ r, f = .answer (.refused r) ∧ r.message = pendingMessage := by
  unfold pollFault
  split
  · rename_i r
    by_cases hr : r.message = pendingMessage
    · simp [hr, eq_comm, and_comm]
    · simp [hr]
  · rename_i hnot
    simp only [Flow.fail_apply, Prod.mk.injEq, reduceCtorEq, false_and, false_iff, not_and]
    rintro - - ⟨r, rfl, -⟩
    exact hnot r rfl

/-- What a poll asks comes to pending or to an answer. -/
theorem askAnswer_ok_iff {request : Http.Request} {w w' : World σ τ} {out : Option TokenAnswer} :
    askAnswer request w = (.ok out, w') ↔
      (∃ answer, out = some answer ∧ Flow.call request .token w = (.ok answer, w')) ∨
        (out = none ∧ ∃ a, Flow.send request w = (.ok a, w') ∧
          Answer.Refuses a.body pendingMessage) := by
  have hpending : (∃ a, Flow.send request w = (.ok a, w') ∧ Answer.Refuses a.body pendingMessage) ↔
      ∃ r, Flow.call request .token w = (.error (.fault (.answer (.refused r))), w') ∧
        r.message = pendingMessage := by
    simp only [Flow.call_refused_iff, ← Answer.refusal?_message_iff]
    constructor
    · rintro ⟨a, hsend, r, hr, hm⟩
      exact ⟨r, ⟨a, hsend, hr⟩, hm⟩
    · rintro ⟨r, ⟨a, hsend, hr⟩, hm⟩
      exact ⟨a, hsend, r, hr, hm⟩
  rw [hpending]
  unfold askAnswer Flow.handle
  rw [Flow.bind_apply]
  rcases hcall : Flow.call request .token w with ⟨(f | e) | answer, v⟩
  · simp only [pollFault_ok_iff, Prod.mk.injEq, Except.error.injEq, Failure.fault.injEq, reduceCtorEq,
      false_and, and_false, exists_false, false_or]
    constructor
    · rintro ⟨rfl, rfl, r, rfl, hm⟩
      exact ⟨rfl, r, ⟨rfl, rfl⟩, hm⟩
    · rintro ⟨rfl, r, ⟨rfl, rfl⟩, hm⟩
      exact ⟨rfl, rfl, r, rfl, hm⟩
  · simp
  · simp only [Flow.pure_apply, Prod.mk.injEq, Except.ok.injEq, reduceCtorEq, false_and, exists_false,
      and_false, or_false]
    constructor
    · rintro ⟨rfl, rfl⟩
      exact ⟨answer, rfl, rfl, rfl⟩
    · rintro ⟨_, rfl, rfl, rfl⟩
      exact ⟨rfl, rfl⟩

theorem takeToken_closed (g : DeviceGrant τ) (answer : TokenAnswer) :
    Closed true 1 (g.takeToken answer : Flow (World σ τ) _ (Option (UserToken τ))) :=
  ((UserToken.ofExisting_closed _ _ _).mapFault _).bind fun _ =>
    (closed_note _ _ _).bind fun _ => closed_pure _

theorem askCodes_closed (g : DeviceGrant τ) :
    Closed true 1 (g.askCodes : Flow (World σ τ) DeviceFault DeviceCodes) :=
  (closed_prepare _).bind (n := 1) fun request =>
    ((closed_call request .deviceCodes).mapFault _).bind fun _ =>
      closed_now.bind fun _ => (closed_note _ _ _).bind fun _ => closed_pure _

/-- A token that was taken is there. -/
theorem takeToken_ne_none {g : DeviceGrant τ} {answer : TokenAnswer} {w w' : World σ τ} :
    g.takeToken answer w ≠ (.ok none, w') := by
  intro h
  rcases Flow.bind_cases h with ⟨e, -, he⟩ | ⟨token, v, -, h⟩
  · cases he
  · cases h

/-- What a poll that succeeds has done. -/
theorem pollWith_cases {g : DeviceGrant τ} {codes : DeviceCodes} {w w' : World σ τ}
    {out : Option (UserToken τ)} (h : g.pollWith codes w = (.ok out, w')) :
    ∃ request, g.pollRequest w.settings codes = .ok request ∧
      ((out = none ∧ askAnswer request w = (.ok none, w')) ∨
        ∃ answer v token, out = some token ∧ askAnswer request w = (.ok (some answer), v) ∧
          g.takeToken answer v = (.ok (some token), w')) := by
  rcases Flow.bind_cases h with ⟨e, -, he⟩ | ⟨request, u, hmade, h⟩
  · cases he
  rw [Flow.prepare_apply, Prod.mk.injEq, Flow.mapError_eq_ok_iff] at hmade
  obtain ⟨hmade, rfl⟩ := hmade
  refine ⟨request, hmade, ?_⟩
  rcases Flow.bind_cases h with ⟨e, -, he⟩ | ⟨answer, v, hask, h⟩
  · cases he
  cases answer with
  | none =>
    cases h
    exact .inl ⟨rfl, hask⟩
  | some answer =>
    cases out with
    | none => exact absurd h takeToken_ne_none
    | some token => exact .inr ⟨answer, v, token, rfl, hask, h⟩

/-- A poll is pending exactly if its answer is a refusal with the message for that. -/
theorem pollWith_none_iff {g : DeviceGrant τ} {codes : DeviceCodes} {w w' : World σ τ} :
    g.pollWith codes w = (.ok none, w') ↔
      ∃ request a, g.pollRequest w.settings codes = .ok request ∧
        Flow.send request w = (.ok a, w') ∧ Answer.Refuses a.body pendingMessage := by
  constructor
  · intro h
    obtain ⟨request, hmade, ⟨-, hask⟩ | ⟨_, _, _, hsome, -⟩⟩ := pollWith_cases h
    · rcases askAnswer_ok_iff.1 hask with ⟨_, hsome, -⟩ | ⟨-, a, hsend, hrefuses⟩
      · cases hsome
      · exact ⟨request, a, hmade, hsend, hrefuses⟩
    · cases hsome
  · rintro ⟨request, a, hmade, hsend, hrefuses⟩
    have hask : askAnswer request w = (.ok none, w') :=
      askAnswer_ok_iff.2 (.inr ⟨rfl, a, hsend, hrefuses⟩)
    unfold pollWith
    rw [Flow.bind_ok (Flow.prepare_ok hmade), Flow.bind_ok hask]
    rfl

/-- The answer to a poll is that the user has not answered yet. -/
def IsPending (g : DeviceGrant τ) (codes : DeviceCodes) (w : World σ τ) : Prop :=
  ∃ request a, g.pollRequest w.settings codes = .ok request ∧ w.CanSend request ∧
    w.answerTo request = .ok (.answer a) ∧ Answer.Refuses a.body pendingMessage

theorem isPending_iff {g : DeviceGrant τ} {codes : DeviceCodes} {w : World σ τ} :
    g.IsPending codes w ↔ ∃ v, g.pollWith codes w = (.ok none, v) := by
  simp only [pollWith_none_iff, IsPending]
  constructor
  · rintro ⟨request, a, hmade, hcan, hanswer, hrefuses⟩
    obtain ⟨v, hsend⟩ := Flow.send_ok_iff.2 ⟨hcan, hanswer⟩
    exact ⟨v, request, a, hmade, hsend, hrefuses⟩
  · rintro ⟨v, request, a, hmade, hsend, hrefuses⟩
    obtain ⟨hcan, hanswer⟩ := Flow.send_ok_iff.1 ⟨v, hsend⟩
    exact ⟨request, a, hmade, hcan, hanswer, hrefuses⟩

/-- A poll that brings a token builds on two answers: to the code and to the token. -/
theorem pollWith_some {g : DeviceGrant τ} {codes : DeviceCodes} {w w' : World σ τ}
    {token : UserToken τ} (h : g.pollWith codes w = (.ok (some token), w')) :
    ∃ answers, Consumes answers w w' ∧ 2 ≤ answers.length ∧
      ∀ x ∈ answers, Answer.Accepted w.settings true x := by
  obtain ⟨request, -, ⟨hnone, -⟩ | ⟨answer, v, _, -, hask, htake⟩⟩ := pollWith_cases h
  · cases hnone
  rcases askAnswer_ok_iff.1 hask with ⟨answer', hanswer, hcall⟩ | ⟨hnone, -⟩
  · obtain ⟨xs, hxs, hm, hx⟩ := closed_call request .token _ _ _ hcall
    obtain ⟨ys, hys, hn, hy⟩ := takeToken_closed g answer _ _ _ htake
    rw [hxs.settings] at hy
    refine ⟨xs ++ ys, hxs.trans hys, ?_, fun x hmem => (List.mem_append.1 hmem).elim (hx x) (hy x)⟩
    rw [List.length_append]
    exact Nat.add_le_add hm hn
  · cases hnone

/-- What a wait may come to that polls at least once. While a poll is pending nothing is sent
between it and the next one. -/
theorem pollLoop_cases [Time.Clock τ] {g : DeviceGrant τ} {codes : DeviceCodes}
    {sleeper : Sleeper σ τ} {interval deadline : τ} {limit : Nat} {w w' : World σ τ}
    {r : Except (Failure DeviceFault) (UserToken τ)}
    (h : g.pollLoop codes sleeper.sleep interval deadline (limit + 1) w = (r, w')) :
    (∃ e, g.pollWith codes w = (.error e, w') ∧ r = .error e) ∨
    (∃ token, g.pollWith codes w = (.ok (some token), w') ∧ r = .ok token) ∨
    ∃ u, g.pollWith codes w = (.ok none, u) ∧
      ((Exchanged [] u w' ∧ ∃ e, r = .error e) ∨
        ∃ v, Exchanged [] u v ∧ g.pollLoop codes sleeper.sleep interval deadline limit v = (r, w')) := by
  rw [pollLoop] at h
  rcases Flow.bind_cases h with ⟨e, hpoll, rfl⟩ | ⟨out, u, hpoll, h⟩
  · exact .inl ⟨e, hpoll, rfl⟩
  cases out with
  | some token =>
    cases h
    exact .inr (.inl ⟨token, hpoll, rfl⟩)
  | none =>
    refine .inr (.inr ⟨u, hpoll, ?_⟩)
    simp only at h
    rw [Flow.bind_ok (Flow.now_apply u)] at h
    split at h
    · cases h
      exact .inl ⟨.refl _, _, rfl⟩
    · rw [Flow.bind_ok (Flow.note_apply _ _ _ u)] at h
      -- a sleep that breaks off has sent nothing either
      have hquiet := (World.Exchanged.logged u ⟨.debug, Logging.loggerOf "tokens.device_code",
        "Authorization pending, polling again in " ++ Time.Clock.text interval ++ "s"⟩).quiet
          (sleeper.quiet interval _)
      rcases Flow.bind_cases h with ⟨e, hsleep, rfl⟩ | ⟨_, v, hsleep, h⟩
      · rw [Flow.mapFault_apply, Prod.mk.injEq] at hsleep
        exact .inl ⟨hsleep.2 ▸ hquiet, e, rfl⟩
      · rw [Flow.mapFault_eq_ok_iff.1 hsleep] at hquiet
        exact .inr ⟨v, hquiet, h⟩

/-- What a wait that brings a token builds on: any number of polls that were pending, and one that
was not. -/
theorem pollLoop_ok [Time.Clock τ] {g : DeviceGrant τ} {codes : DeviceCodes} (sleeper : Sleeper σ τ)
    {interval deadline : τ} {limit : Nat} {w w' : World σ τ} {token : UserToken τ}
    (h : g.pollLoop codes sleeper.sleep interval deadline limit w = (.ok token, w')) :
    ∃ pending accepted, Consumes (pending ++ accepted) w w' ∧
      (∀ x ∈ pending, Answer.Refuses x.body pendingMessage) ∧ 2 ≤ accepted.length ∧
      ∀ x ∈ accepted, Answer.Accepted w.settings true x := by
  induction limit generalizing w with
  | zero => cases h
  | succ limit ih =>
    rcases pollLoop_cases h with ⟨e, -, he⟩ | ⟨t, hpoll, ht⟩ | ⟨v, hpoll, hrest⟩
    · cases he
    · cases ht
      obtain ⟨answers, hconsumes, hleast, haccepted⟩ := pollWith_some hpoll
      exact ⟨[], answers, hconsumes, nofun, hleast, haccepted⟩
    · obtain ⟨request, a, -, hsend, hrefuses⟩ := pollWith_none_iff.1 hpoll
      rcases hrest with ⟨-, e, he⟩ | ⟨u, hquiet, h⟩
      · cases he
      have hpending := (Flow.send_consumes hsend).quiet hquiet
      obtain ⟨pending, accepted, hconsumes, hp, hleast, haccepted⟩ := ih h
      rw [hpending.settings] at haccepted
      refine ⟨a :: pending, accepted, hpending.trans hconsumes, ?_, hleast, haccepted⟩
      exact List.forall_mem_cons.2 ⟨hrefuses, hp⟩

end DeviceGrant

/-! ## All operations -/

namespace Operation

/-- Whether a record is read from the answers that an operation builds on. Only a revocation needs
none. -/
def isTyped : Operation σ τ → Bool
  | .revoke _ _ => false
  | _ => true

/-- Whether an operation polls for a token. -/
def isPolling : Operation σ τ → Bool
  | .poll _ => true
  | .wait _ _ _ => true
  | _ => false

/-- What an operation with a result has built on: polls that were pending, if it polls, and accepted
answers, of which there are some if it brought a token. -/
structure BuiltOn (op : Operation σ τ) (w : World σ τ) (result : OperationResult τ)
    (polls answers : List Http.Response) : Prop where
  pending : ∀ x ∈ polls, Answer.Refuses x.body "authorization_pending"
  polling : polls ≠ [] → op.isPolling = true
  accepted : ∀ x ∈ answers, Answer.Accepted w.settings op.isTyped x
  token : ∀ t, result = .token t → answers ≠ []

variable [Time.Clock τ]

/-- An operation takes no answer for a success that is none. -/
structure FailsClosed (op : Operation σ τ) (w : World σ τ) : Prop where
  /-- If it succeeds, all answers are accepted but those of polls that were pending. -/
  success : ∀ result w', op.run w = (.ok result, w') → ∃ polls answers,
    Consumes (polls ++ answers) w w' ∧ op.BuiltOn w result polls answers
  /-- A poll is pending exactly if its answer is a refusal with the message for that, whatever its
  status and its type. -/
  pending : ∀ g, op = .poll g → ((op.run w).1 = .ok .pending ↔
    ∃ codes request a, g.codes = some codes ∧ g.pollRequest w.settings codes = .ok request ∧
      w.CanSend request ∧ w.answerTo request = .ok (.answer a) ∧
      Answer.Refuses a.body "authorization_pending")
  /-- No record is read from a refusal, even if its body would be one. -/
  refusal : ∀ {α : Type} (k : RecordKind α) (a : Http.Response) (message : String),
    Answer.Refuses a.body message → ∀ record, Answer.read w.settings k a ≠ .ok record

omit [Time.Clock τ] in
/-- A flow that is closed has built on accepted answers alone. -/
theorem builtOn_of_closed {op : Operation σ τ} {onFault : ε → OperationFault}
    {onResult : α → OperationResult τ} {f : Flow (World σ τ) ε α} {w w' : World σ τ}
    {result : OperationResult τ} (h : f.seenAs onFault onResult w = (.ok result, w')) {typed : Bool}
    {least : Nat} (hf : Closed typed least f) (htyped : op.isTyped = typed)
    (hleast : (∃ a t, onResult a = .token t) → 0 < least) :
    ∃ polls answers, Consumes (polls ++ answers) w w' ∧ op.BuiltOn w result polls answers := by
  obtain ⟨a, hok, rfl⟩ := seenAs_ok h
  subst htyped
  obtain ⟨answers, hconsumes, hlength, haccepted⟩ := hf w w' a hok
  refine ⟨[], answers, hconsumes, nofun, fun hne => absurd rfl hne, haccepted, fun t ht hnil => ?_⟩
  rw [hnil] at hlength
  exact absurd (hleast ⟨a, t, ht⟩) (Nat.not_lt.2 hlength)

theorem start_builtOn {g : DeviceGrant τ} {w w' : World σ τ} {result : OperationResult τ}
    (h : run (.start g) w = (.ok result, w')) :
    ∃ polls answers, Consumes (polls ++ answers) w w' ∧
      BuiltOn (.start g) w result polls answers := by
  rw [run, DeviceGrant.holding_start] at h
  cases hg : g.codes with
  | some codes =>
    simp only [hg] at h
    exact builtOn_of_closed h (closed_pure codes) rfl fun ⟨_, _, ht⟩ => nomatch ht
  | none =>
    simp only [hg] at h
    exact builtOn_of_closed h (DeviceGrant.askCodes_closed g) rfl fun ⟨_, _, ht⟩ => nomatch ht

theorem poll_builtOn {g : DeviceGrant τ} {w w' : World σ τ} {result : OperationResult τ}
    (h : run (.poll g) w = (.ok result, w')) :
    ∃ polls answers, Consumes (polls ++ answers) w w' ∧
      BuiltOn (.poll g) w result polls answers := by
  rw [run, DeviceGrant.holding_poll] at h
  obtain ⟨out, hout, rfl⟩ := seenAs_ok h
  cases hg : g.codes with
  | none =>
    simp only [hg] at hout
    cases hout
  | some codes =>
    simp only [hg] at hout
    cases out with
    | none =>
      obtain ⟨request, a, -, hsend, hrefuses⟩ := DeviceGrant.pollWith_none_iff.1 hout
      exact ⟨[a], [], send_consumes hsend, List.forall_mem_singleton.2 hrefuses, fun _ => rfl,
        nofun, fun _ ht => nomatch ht⟩
    | some token =>
      obtain ⟨answers, hconsumes, hleast, haccepted⟩ := DeviceGrant.pollWith_some hout
      refine ⟨[], answers, hconsumes, nofun, fun hne => absurd rfl hne, haccepted, fun _ _ hnil => ?_⟩
      rw [hnil] at hleast
      cases hleast

theorem wait_builtOn {g : DeviceGrant τ} {sleeper : Sleeper σ τ} {limit : Nat} {w w' : World σ τ}
    {result : OperationResult τ} (h : run (.wait g sleeper limit) w = (.ok result, w')) :
    ∃ polls answers, Consumes (polls ++ answers) w w' ∧
      BuiltOn (.wait g sleeper limit) w result polls answers := by
  rw [run, DeviceGrant.holding_waitWith] at h
  obtain ⟨token, htoken, rfl⟩ := seenAs_ok h
  cases hcodes : g.codes with
  | none =>
    simp only [hcodes] at htoken
    cases htoken
  | some codes =>
    cases htime : g.startedAt with
    | none =>
      simp only [hcodes, htime] at htoken
      cases htoken
    | some time =>
      simp only [hcodes, htime] at htoken
      obtain ⟨polls, answers, hconsumes, hpending, hleast, haccepted⟩ :=
        DeviceGrant.pollLoop_ok sleeper htoken
      refine ⟨polls, answers, hconsumes, hpending, fun _ => rfl, haccepted, fun _ _ hnil => ?_⟩
      rw [hnil] at hleast
      cases hleast

/-- What any operation that succeeds has built on. -/
theorem run_builtOn {op : Operation σ τ} {w w' : World σ τ} {result : OperationResult τ}
    (h : op.run w = (.ok result, w')) :
    ∃ polls answers, Consumes (polls ++ answers) w w' ∧ op.BuiltOn w result polls answers := by
  cases op with
  | validate access =>
    exact builtOn_of_closed h (Endpoint.validate_closed access) rfl fun ⟨_, _, ht⟩ => nomatch ht
  | revoke access client =>
    exact builtOn_of_closed h (Endpoint.revoke_closed access client) rfl fun ⟨_, _, ht⟩ =>
      nomatch ht
  | refresh token client secret =>
    exact builtOn_of_closed h (Endpoint.refresh_closed token client secret) rfl fun ⟨_, _, ht⟩ =>
      nomatch ht
  | obtain client secret scopes =>
    exact builtOn_of_closed h (AppToken.obtain_closed client secret scopes) rfl fun _ => Nat.one_pos
  | existingApp access spare secret =>
    exact builtOn_of_closed h (AppToken.ofExisting_closed access spare secret) rfl fun _ =>
      Nat.one_pos
  | existingUser access spare secret =>
    exact builtOn_of_closed h (UserToken.ofExisting_closed access spare secret) rfl fun _ =>
      Nat.one_pos
  | exchangeCode g secret state code =>
    exact builtOn_of_closed h (g.exchangeCode_closed secret state code) rfl fun _ => Nat.two_pos
  | acceptToken g r => exact builtOn_of_closed h (g.acceptToken_closed r) rfl fun _ => Nat.one_pos
  | start g => exact start_builtOn h
  | poll g => exact poll_builtOn h
  | wait g sleeper limit => exact wait_builtOn h
  | renew t =>
    rw [run, Token.holding_refresh] at h
    exact builtOn_of_closed h t.refreshed_closed rfl fun _ => Nat.one_pos

theorem poll_pending_iff {g : DeviceGrant τ} {w : World σ τ} :
    (run (.poll g) w).1 = .ok .pending ↔
      ∃ codes request a, g.codes = some codes ∧ g.pollRequest w.settings codes = .ok request ∧
        w.CanSend request ∧ w.answerTo request = .ok (.answer a) ∧
        Answer.Refuses a.body "authorization_pending" := by
  have hrun : (run (.poll g) w).1 = .ok .pending ↔
      ∃ w', Flow.holding g DeviceGrant.poll w = (.ok none, w') := by
    rw [run, seenAs_apply]
    rcases Flow.holding g DeviceGrant.poll w with ⟨e | (_ | t), v⟩ <;>
      simp [mapError_error, mapError_ok, Except.map, OperationResult.ofPoll]
  rw [hrun, DeviceGrant.holding_poll]
  cases hg : g.codes with
  | none => simp
  | some codes =>
    refine DeviceGrant.isPending_iff.symm.trans ⟨fun ⟨request, a, h⟩ => ?_, ?_⟩
    · exact ⟨codes, request, a, rfl, h⟩
    · rintro ⟨_, request, a, hcodes, h⟩
      cases hcodes
      exact ⟨request, a, h⟩

/-- Every operation fails closed in every world. -/
theorem fails_closed (op : Operation σ τ) (w : World σ τ) : op.FailsClosed w where
  success _ _ h := run_builtOn h
  pending g hop := by
    subst hop
    exact poll_pending_iff
  refusal k a message hrefuses record hread :=
    (Answer.accepted_of_read hread).noRefusal message hrefuses

/-- The user has not answered when a flow is polled, and has when it is polled again. Then the type
of the token's answer is written in capitals, with blanks round it and a parameter behind it. -/
theorem fails_closed_polls :
    let pending := Text.Utf8.encode
      "\x7b\x22status\x22:400,\x22message\x22:\x22authorization_pending\x22\x7d".toList
    let token := Text.Utf8.encode "\x7b\x22access_token\x22:\x22tok\x22\x7d".toList
    let validation := Text.Utf8.encode
      "\x7b\x22client_id\x22:\x22cid\x22,\x22login\x22:\x22joe\x22,\x22user_id\x22:\x227\x22\x7d".toList
    let json : Http.Headers := [("content-type", " Application/JSON ;charset=utf-8")]
    let w : World Http.Script Int :=
      { server := ⟨[("/oauth2/token", [.answer ⟨400, [], pending⟩, .answer ⟨200, json, token⟩]),
          ("/oauth2/validate", [.answer ⟨200, [], validation⟩])]⟩
        client := .bare, settings := .ok {}, now := 5 }
    let g : DeviceGrant Int :=
      { clientId := some ⟨"cid"⟩, scopes := [], clientSecret := some ⟨"key"⟩
        codes := some ⟨"code", ⟨1800000000, by decide, by decide⟩, ⟨5000000, by decide, by decide⟩,
          "USER", "https://id.tv"⟩
        startedAt := some 0 }
    let op : Operation Http.Script Int := .poll g
    let t : UserToken Int := ⟨some ⟨"tok"⟩, none, some ⟨"cid"⟩, some ⟨"key"⟩, some "joe", some "7",
      [], ⟨none, 5⟩⟩
    (op.run w).1 = .ok .pending ∧
      (∃ codes request a, g.codes = some codes ∧ g.pollRequest w.settings codes = .ok request ∧
        w.CanSend request ∧ w.answerTo request = .ok (.answer a) ∧
        Answer.Refuses a.body "authorization_pending") ∧
      ∃ w', op.run (op.run w).2 = (.ok (.token (.user t)), w') ∧ ∃ polls answers, answers ≠ [] ∧
        Consumes (polls ++ answers) (op.run w).2 w' ∧
        op.BuiltOn (op.run w).2 (.token (.user t)) polls answers := by
  intro pending token validation json w g op t
  have hpending : (op.run w).1 = .ok .pending := by decide +kernel
  have htoken : (op.run (op.run w).2).1 = .ok (.token (.user t)) := by decide +kernel
  obtain ⟨polls, answers, hconsumes, hbuilt⟩ :=
    (fails_closed op (op.run w).2).success _ _ (Flow.ends_of_fst htoken)
  exact ⟨hpending, ((fails_closed op w).pending g rfl).1 hpending, _, Flow.ends_of_fst htoken,
    polls, answers, hbuilt.token _ rfl, hconsumes, hbuilt⟩

end Operation

end Bearer
