import Bearer.Proofs.Answer.Refusals
import Bearer.Proofs.Flow.Exchanges

/-!
# Flows that go on from accepted answers alone

A flow is closed if it succeeds on accepted answers alone: each answer that the client handed over
to it was no refusal, had the status of success and passed for JSON where a record was read from it.
A call is closed; what it takes for a refusal is exactly an answer that is one.

* `Closed.bind`, `closed_call`: flows that build on accepted answers.
* `send_ok_iff`, `call_refused_iff`: which answers a request and a call end with.
-/
namespace Bearer

open World

variable {σ τ ε δ α β : Type} [Http.Server σ]

/-! ## Answers that are consumed -/

/-- From `w` to `w'` requests are sent, and for them the client hands over these answers. -/
def World.Consumes (answers : List Http.Response) (w w' : World σ τ) : Prop :=
  ∃ rs, Exchanged rs w w' ∧ w.handed rs = answers.map fun a => .ok (.answer a)

namespace World.Consumes

variable {u v w : World σ τ} {xs ys : List Http.Response}

theorem of_exchanged (h : Exchanged [] u v) : Consumes [] u v := ⟨[], h, rfl⟩

theorem trans (h : Consumes xs u v) (h' : Consumes ys v w) : Consumes (xs ++ ys) u w := by
  obtain ⟨rs, hex, hx⟩ := h
  obtain ⟨rs', hex', hy⟩ := h'
  exact ⟨rs ++ rs', hex.trans hex', by rw [hex.handed_append, hx, hy, List.map_append]⟩

theorem quiet (h : Consumes xs u v) (h' : Exchanged [] v w) : Consumes xs u w := by
  simpa using h.trans (of_exchanged h')

theorem settings (h : Consumes xs u v) : v.settings = u.settings :=
  h.choose_spec.1.settings

end World.Consumes

theorem Flow.send_consumes {r : Http.Request} {w w' : World σ τ} {a : Http.Response}
    (h : Flow.send r w = (.ok a, w')) : Consumes [a] w w' := by
  obtain ⟨hex, hanswer, -⟩ := Flow.send_ok h
  exact ⟨_, hex, by rw [handed_prepared, hanswer]; rfl⟩

namespace Flow

/-- A flow that succeeds has built on accepted answers alone, and on so many of them at least. -/
def Closed (typed : Bool) (least : Nat) (f : Flow (World σ τ) ε α) : Prop :=
  ∀ w w' a, f w = (.ok a, w') → ∃ answers, Consumes answers w w' ∧ least ≤ answers.length ∧
    ∀ x ∈ answers, Answer.Accepted w.settings typed x

variable {typed : Bool} {m n : Nat} {f : Flow (World σ τ) ε α}

theorem closed_of_quiet (h : ∀ w, Exchanged [] w (f w).2) : Closed typed 0 f := by
  intro w w' a hf
  have hex := h w
  rw [hf] at hex
  exact ⟨[], .of_exchanged hex, Nat.zero_le _, nofun⟩

theorem closed_pure (a : α) : Closed typed 0 (pure a : Flow (World σ τ) ε α) :=
  closed_of_quiet fun w => .refl w

theorem closed_note (level : Logging.Level) (part message : String) :
    Closed typed 0 (note level part message : Flow (World σ τ) ε Unit) :=
  closed_of_quiet fun w => .logged w _

theorem closed_now : Closed typed 0 (now : Flow (World σ τ) ε τ) :=
  closed_of_quiet fun w => .refl w

theorem closed_prepare (make : Answer.Loaded → Except Escape α) :
    Closed typed 0 (prepare make : Flow (World σ τ) ε α) :=
  closed_of_quiet fun w => .refl w

/-- A flow that always fails is closed. -/
theorem closed_fail (e : ε) : Closed typed n (fail e : Flow (World σ τ) ε α) :=
  fun _ _ _ h => nomatch h

theorem Closed.bind {g : α → Flow (World σ τ) ε β} (hf : Closed typed m f)
    (hg : ∀ a, Closed typed n (g a)) : Closed typed (m + n) (f >>= g) := by
  intro w w' b h
  rcases bind_cases h with ⟨e, -, he⟩ | ⟨a, v, hfa, hga⟩
  · cases he
  · obtain ⟨xs, hxs, hm, hx⟩ := hf w v a hfa
    obtain ⟨ys, hys, hn, hy⟩ := hg a v w' b hga
    rw [hxs.settings] at hy
    refine ⟨xs ++ ys, hxs.trans hys, ?_, fun x hmem => ?_⟩
    · rw [List.length_append]
      exact Nat.add_le_add hm hn
    · exact (List.mem_append.1 hmem).elim (hx x) (hy x)

theorem Closed.mapFault (hf : Closed typed n f) (g : ε → δ) : Closed typed n (f.mapFault g) :=
  fun w w' a h => hf w w' a (mapFault_eq_ok_iff.1 h)

omit [Http.Server σ] in
theorem accept_ok {k : RecordKind α} {r : Http.Response} {w w' : World σ τ} {a : α}
    (h : accept k r w = (.ok a, w')) : Answer.read w.settings k r = .ok a ∧ w' = w := by
  have h : (Answer.read w.settings k r, w) = (.ok a, w') := h
  exact ⟨congrArg Prod.fst h, (congrArg Prod.snd h).symm⟩

/-- A request is sent, and nothing but its answer is gone on with. -/
theorem closed_send {r : Http.Request} {seen : SendFault → ε}
    {rest : Http.Response → Flow (World σ τ) ε α}
    (hrest : ∀ x v v' a, rest x v = (.ok a, v') →
      Exchanged [] v v' ∧ Answer.Accepted v.settings typed x) :
    Closed typed 1 ((send r).mapFault seen >>= rest) := by
  intro w w' a h
  rcases bind_cases h with ⟨e, -, he⟩ | ⟨x, v, hsend, h⟩
  · cases he
  · have hsend := send_consumes (mapFault_eq_ok_iff.1 hsend)
    obtain ⟨hquiet, haccepted⟩ := hrest x v w' a h
    rw [hsend.settings] at haccepted
    exact ⟨[x], hsend.quiet hquiet, Nat.le_refl 1, by simpa using haccepted⟩

theorem closed_call (r : Http.Request) (k : RecordKind α) :
    Closed true 1 (call r k : Flow (World σ τ) CallFault α) := by
  refine closed_send fun x v v' a h => ?_
  obtain ⟨hread, rfl⟩ := accept_ok (mapFault_eq_ok_iff.1 h)
  exact ⟨.refl _, Answer.accepted_of_read hread⟩

end Flow

/-! ## Refusals of a call -/

namespace Flow

variable {r : Http.Request} {w w' : World σ τ}

/-- What it takes for a request to bring an answer, and that this is enough. -/
theorem send_ok_iff {a : Http.Response} :
    (∃ w', send r w = (.ok a, w')) ↔ w.CanSend r ∧ w.answerTo r = .ok (.answer a) := by
  constructor
  · rintro ⟨w', h⟩
    refine ⟨Classical.byContradiction fun hcan => ?_, (send_ok h).2.1⟩
    obtain ⟨-, e, he⟩ := send_unsent hcan
    rw [h] at he
    cases he
  · rintro ⟨⟨⟨u, hu⟩, hsend⟩, hanswer⟩
    refine ⟨(send r w).2, Prod.ext ?_ rfl⟩
    rw [(send_exchanged hu hsend).2, hanswer]
    rfl

/-- A call is refused by an answer that is a refusal, whatever else there is to it. -/
theorem call_refused_iff {k : RecordKind α} {f : Refusal} :
    call r k w = (.error (.fault (.answer (.refused f))), w') ↔
      ∃ a, send r w = (.ok a, w') ∧ Answer.refusal? a.body = some f := by
  have hmapped : ∀ x : Except (Failure AnswerFault) α,
      Except.error (.fault (.answer (.refused f))) = x.mapError (Failure.map CallFault.answer) ↔
        x = .error (.fault (.refused f)) := by
    rintro ((f' | e) | a) <;> simp [mapError_error, mapError_ok, Failure.map, eq_comm]
  constructor
  · intro h
    rcases call_cases h with ⟨e, -, he⟩ | ⟨a, hsend, hread⟩
    · cases e <;> cases he
    · exact ⟨a, hsend, Answer.read_refused_iff.1 ((hmapped _).1 hread)⟩
  · rintro ⟨a, hsend, hrefusal⟩
    rcases call_cases (Prod.eta (call r k w)).symm with ⟨e, he, -⟩ | ⟨b, hb, hread⟩
    · rw [hsend] at he
      cases he
    · obtain ⟨hab, hw⟩ : a = b ∧ w' = (call r k w).2 := by
        rw [hsend] at hb
        cases hb
        exact ⟨rfl, rfl⟩
      rw [← hab] at hread
      have hread := hread.trans ((hmapped _).2 (Answer.read_refused_iff.2 hrefusal)).symm
      exact Prod.ext hread hw.symm

end Flow

end Bearer
