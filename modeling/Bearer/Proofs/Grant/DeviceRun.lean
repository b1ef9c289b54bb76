import Bearer.Grant.Device
import Bearer.Http.Offline
import Bearer.Proofs.Flow.Sending

/-!
# Device flows over a whole run

A device flow is started, polled and waited for in any order while the world around it changes. The
codes and the time of the start are written together and cleared together: they come from a start
that got codes, and they go with a token or when they expire. Nothing else that happens to the flow
touches them, whatever the server answers.

* `start_cases`, `poll_cases`, `waitWith_cases`: what a start, a poll and a wait do to the flow.
* `startsOnce`, `keepsFlow`, `isIdle`: what holds of any one step.
* `keepsLast_step`, `keepsLast_after`: codes are those of the last start that sent a request.
* `reachable_holds`: all of it in every state of every run.
-/
namespace Bearer

namespace DeviceGrant

open Time (Clock)

variable {σ τ : Type} [Http.Server σ] {g : DeviceGrant τ} {w : World σ τ}

/-! ## A start -/

/-- All that a start does where there are no codes. -/
theorem start_cases (hg : g.codes = none) :
    (∃ e, g.startRequest w.settings = .error e ∧ start (g, w) = (.error (.escape e), (g, w))) ∨
    ∃ request v, g.startRequest w.settings = .ok request ∧
      ((∃ codes l, Flow.call request .deviceCodes w = (.ok codes, v) ∧
          start (g, w) = (.ok codes, (g.started codes v.now, v.logged l))) ∨
        ∃ e, Flow.call request .deviceCodes w = (.error e, v) ∧
          start (g, w) = (.error (e.map .start), (g, v))) := by
  unfold start
  rw [Flow.bind_ok (Flow.held_apply (g, w))]
  simp only [hg]
  cases hr : g.startRequest w.settings with
  | error e =>
    exact .inl ⟨e, rfl, Flow.bind_error (Flow.beside_eq (Flow.prepare_error hr) g)⟩
  | ok request =>
    rw [Flow.bind_ok (Flow.beside_eq (Flow.prepare_ok hr) g)]
    refine .inr ⟨request, (Flow.call request .deviceCodes w).2, rfl, ?_⟩
    cases hcall : Flow.call request .deviceCodes w with
    | mk result v =>
      cases result with
      | error e =>
        rw [Flow.bind_error (Flow.beside_eq (Flow.mapFault_eq _ hcall) g)]
        exact .inr ⟨e, rfl, rfl⟩
      | ok codes =>
        rw [Flow.bind_ok (Flow.beside_eq (Flow.mapFault_eq _ hcall) g)]
        exact .inl ⟨codes, _, rfl, rfl⟩

/-- The request that a start makes in a world where it can be sent. -/
def CanStart (s : DeviceGrant τ × World σ τ) (request : Http.Request) : Prop :=
  s.1.startRequest s.2.settings = .ok request ∧ s.2.CanSend request

/-- A start that can send its request does, and keeps the codes that it gets with the time of the
answer. -/
theorem start_answered (hg : g.codes = none) {request : Http.Request}
    (hr : CanStart (g, w) request) :
    World.Answered request w (start (g, w)).2.2 ∧
      ((∃ codes, (start (g, w)).1 = .ok codes ∧
          (start (g, w)).2.1 = g.started codes w.answerTime) ∨
        ∃ e, (start (g, w)).1 = .error e ∧ (start (g, w)).2.1 = g) := by
  obtain ⟨hmade, hsend⟩ := hr
  rcases start_cases (w := w) hg with ⟨e, he, -⟩ | ⟨request', v, hmade', hcall⟩
  · rw [hmade] at he
    cases he
  · rw [hmade] at hmade'
    cases hmade'
    have hans := Flow.call_answered hsend RecordKind.deviceCodes
    rcases hcall with ⟨codes, l, hcall, hstart⟩ | ⟨e, hcall, hstart⟩
    · rw [hcall] at hans
      rw [hstart]
      exact ⟨hans.quiet (.logged v l), .inl ⟨codes, rfl, by rw [hans.now]⟩⟩
    · rw [hcall] at hans
      rw [hstart]
      exact ⟨hans, .inr ⟨_, rfl, rfl⟩⟩

/-- A start that cannot breaks off, and nothing is sent or kept. -/
theorem start_quiet (hg : g.codes = none) (hr : ∀ request, ¬CanStart (g, w) request) :
    World.Quiet w (start (g, w)).2.2 ∧ (start (g, w)).2.1 = g ∧
      ∃ e, (start (g, w)).1 = .error (.escape e) := by
  rcases start_cases (w := w) hg with ⟨e, he, hstart⟩ | ⟨request, v, hmade, hcall⟩
  · rw [hstart]
    exact ⟨.refl w, rfl, e, rfl⟩
  · have hsend : ¬w.CanSend request := fun h => hr request ⟨hmade, h⟩
    obtain ⟨hquiet, e', he'⟩ := Flow.call_quiet hsend RecordKind.deviceCodes
    rcases hcall with ⟨codes, l, hcall, hstart⟩ | ⟨e, hcall, hstart⟩
    · rw [hcall] at he'
      cases he'
    · rw [hcall] at he' hquiet
      cases he'
      rw [hstart]
      exact ⟨hquiet, rfl, e', rfl⟩

/-! ## A poll -/

omit [Http.Server σ] in
/-- A fault that a poll handles is not that the codes expired. -/
theorem pollFault_ne_expired {f : CallFault} {u v : World σ τ} {e : Failure DeviceFault}
    (h : pollFault f u = (.error e, v)) : e ≠ .fault .expired := by
  unfold pollFault at h
  split at h
  · split at h
    · cases h
    · cases h
      exact nofun
  · cases h
    exact nofun

/-- All that a poll does to the flow: a token ends it, and anything else leaves it. -/
theorem poll_cases {s s' : DeviceGrant τ × World σ τ}
    {r : Except (Failure DeviceFault) (Option (UserToken τ))} (h : poll s = (r, s')) :
    (∃ token, r = .ok (some token) ∧ s'.1 = s.1.cleared) ∨ (r = .ok none ∧ s'.1 = s.1) ∨
      ∃ e, r = .error e ∧ e ≠ .fault .expired ∧ s'.1 = s.1 := by
  cases hs : s.1.codes with
  | none =>
    rw [poll_idle hs] at h
    cases h
    exact .inr (.inr ⟨_, rfl, nofun, rfl⟩)
  | some codes =>
    -- three flows beside what is held: the request, the answer, the token
    unfold poll at h
    rw [Flow.bind_ok (Flow.held_apply s)] at h
    simp only [hs] at h
    rcases Flow.beside_cases h with ⟨e, rfl, hsame, hmade⟩ | ⟨request, u, -, h⟩
    · exact .inr (.inr ⟨e, rfl, Flow.prepare_ne_fault hmade, hsame⟩)
    rcases Flow.beside_cases h with ⟨e, rfl, hsame, hanswer⟩ | ⟨answer, v, -, h⟩
    · have hne := Flow.handle_ne_fault (fun _ _ _ _ => pollFault_ne_expired) hanswer
      exact .inr (.inr ⟨e, rfl, hne, hsame⟩)
    cases answer with
    | none =>
      cases h
      exact .inr (.inl ⟨rfl, rfl⟩)
    | some answer =>
      rcases Flow.beside_cases h with ⟨e, rfl, hsame, htoken⟩ | ⟨token, w, -, h⟩
      · have hvalid : ∀ f, DeviceFault.validation f ≠ .expired := fun _ h => nomatch h
        exact .inr (.inr ⟨e, rfl, Flow.mapFault_ne_fault hvalid htoken, hsame⟩)
      · cases h
        exact .inl ⟨token, rfl, rfl⟩

/-! ## A wait -/

variable [Clock τ]

/-- What the polls of a wait do to the flow: a token or the expiry ends it, and anything else
leaves it. -/
theorem pollUntil_cases {sleep : τ → Flow (World σ τ) Empty Unit} {interval deadline : τ}
    {limit : Nat} {s s' : DeviceGrant τ × World σ τ} {r : Except (Failure DeviceFault) (UserToken τ)}
    (h : pollUntil sleep interval deadline limit s = (r, s')) :
    (∃ token, r = .ok token ∧ s'.1 = s.1.cleared) ∨
      (r = .error (.fault .expired) ∧ s'.1 = s.1.cleared) ∨
      ∃ e, r = .error e ∧ e ≠ .fault .expired ∧ s'.1 = s.1 := by
  induction limit generalizing s with
  | zero =>
    cases h
    exact .inr (.inr ⟨_, rfl, nofun, rfl⟩)
  | succ limit ih =>
    rw [pollUntil] at h
    rcases Flow.bind_cases h with ⟨e, hpoll, rfl⟩ | ⟨outcome, t, hpoll, h⟩
    · rcases poll_cases hpoll with ⟨_, htoken, -⟩ | ⟨hnone, -⟩ | ⟨e', he', hne, hs'⟩
      · cases htoken
      · cases hnone
      · cases he'
        exact .inr (.inr ⟨e, rfl, hne, hs'⟩)
    · rcases poll_cases hpoll with ⟨token, htoken, ht⟩ | ⟨hnone, ht⟩ | ⟨e', he', -⟩
      · cases htoken
        cases h
        exact .inl ⟨token, rfl, ht⟩
      · cases hnone
        obtain ⟨g', v⟩ := t
        simp only at h
        rw [Flow.bind_ok (Flow.beside_eq (Flow.now_apply v) g')] at h
        split at h
        · rw [Flow.bind_ok (Flow.held_apply (g', v)), Flow.bind_ok (Flow.hold_apply _ _)] at h
          cases h
          exact .inr (.inl ⟨rfl, congrArg cleared ht⟩)
        · rw [Flow.bind_ok (Flow.beside_eq (Flow.note_apply _ _ _ v) g')] at h
          rcases Flow.beside_cases h with ⟨e, rfl, hsame, hsleep⟩ | ⟨_, u, -, h⟩
          · exact .inr (.inr ⟨e, rfl, Flow.mapFault_ne_fault nofun hsleep, hsame.trans ht⟩)
          · rw [← ht]
            exact ih (s := (g', u)) h
      · cases he'

theorem waitWith_cases {sleep : τ → Flow (World σ τ) Empty Unit} {limit : Nat}
    {s s' : DeviceGrant τ × World σ τ} {r : Except (Failure DeviceFault) (UserToken τ)}
    (h : waitWith sleep limit s = (r, s')) :
    (∃ token, r = .ok token ∧ s'.1 = s.1.cleared) ∨
      (r = .error (.fault .expired) ∧ s'.1 = s.1.cleared) ∨
      ∃ e, r = .error e ∧ e ≠ .fault .expired ∧ s'.1 = s.1 := by
  unfold waitWith at h
  rw [Flow.bind_ok (Flow.held_apply s)] at h
  cases hcodes : s.1.codes with
  | none =>
    simp only [hcodes] at h
    cases h
    exact .inr (.inr ⟨_, rfl, nofun, rfl⟩)
  | some codes =>
    cases htime : s.1.startedAt with
    | none =>
      simp only [hcodes, htime] at h
      cases h
      exact .inr (.inr ⟨_, rfl, nofun, rfl⟩)
    | some time =>
      simp only [hcodes, htime] at h
      exact pollUntil_cases h

end DeviceGrant

/-! ## Steps -/

open DeviceGrant

/-- What may happen to a device flow. -/
inductive DeviceStep (σ τ : Type) where
  /-- It is started. -/
  | start
  /-- It is polled once. -/
  | poll
  /-- It is waited for, with sleeps of any kind between so many polls at most. -/
  | wait (sleep : τ → Flow (World σ τ) Empty Unit) (limit : Nat)
  /-- The world changes without it: the clock goes on, or something else uses the client. -/
  | elsewhere (change : World σ τ → World σ τ)

/-- What came of a step. -/
inductive DeviceOutcome (τ : Type) where
  | started (r : Except (Failure DeviceFault) DeviceCodes)
  | polled (r : Except (Failure DeviceFault) (Option (UserToken τ)))
  | waited (r : Except (Failure DeviceFault) (UserToken τ))
  | passed

/-- The outcomes that end a flow: a token, and that the codes expired in a wait. -/
def DeviceOutcome.EndsFlow {τ : Type} : DeviceOutcome τ → Prop
  | .polled r => ∃ token, r = .ok (some token)
  | .waited r => (∃ token, r = .ok token) ∨ r = .error (.fault .expired)
  | .started _ => False
  | .passed => False

variable {σ τ : Type} [Http.Server σ] [Time.Clock τ]

/-- Takes a step. -/
def DeviceStep.run (s : DeviceGrant τ × World σ τ) :
    DeviceStep σ τ → DeviceOutcome τ × (DeviceGrant τ × World σ τ)
  | .start => (.started (DeviceGrant.start s).1, (DeviceGrant.start s).2)
  | .poll => (.polled (DeviceGrant.poll s).1, (DeviceGrant.poll s).2)
  | .wait sleep limit => (.waited (waitWith sleep limit s).1, (waitWith sleep limit s).2)
  | .elsewhere change => (.passed, (s.1, change s.2))

/-! ## What holds of every step -/

/-- Codes that are there are given out again and nothing else is done. Without codes a start sends
its request alone if there is one to be sent; if there is none it breaks off, and nothing is sent or
kept. -/
def StartsOnce (s : DeviceGrant τ × World σ τ) : Prop :=
  (∀ codes, s.1.codes = some codes → DeviceGrant.start s = (.ok codes, s)) ∧
    (s.1.codes = none →
      (∀ request, CanStart s request →
        (DeviceGrant.start s).2.2.sent = s.2.sent.add (s.2.client.prepare request)) ∧
      ((∀ request, ¬CanStart s request) →
        (DeviceGrant.start s).2.2.sent = s.2.sent ∧ (DeviceGrant.start s).2.1 = s.1 ∧
          ∃ e, (DeviceGrant.start s).1 = .error (.escape e)))

/-- What a step does to the flow. Besides the codes and the time of the start nothing changes. -/
structure KeepsFlow (s : DeviceGrant τ × World σ τ) (a : DeviceStep σ τ) : Prop where
  /-- A step that ends the flow takes the codes and the time away. -/
  ends : (a.run s).1.EndsFlow → (a.run s).2.1 = { s.1 with codes := none, startedAt := none }
  /-- A start that gets codes where there are none stores them with the time of the answer. -/
  stores (codes : DeviceCodes) : s.1.codes = none → (a.run s).1 = .started (.ok codes) →
    (a.run s).2.1 = { s.1 with codes := some codes, startedAt := some s.2.answerTime }
  /-- Any other step leaves the flow as it was. -/
  keeps : ¬(a.run s).1.EndsFlow → (a.run s).2.1 = s.1 ∨
    ∃ codes, s.1.codes = none ∧ (a.run s).1 = .started (.ok codes) ∧
      (a.run s).2.1 = { s.1 with codes := some codes, startedAt := some s.2.answerTime }

/-- Without codes a poll and a wait fail, and nothing is done at all. -/
def IsIdle (s : DeviceGrant τ × World σ τ) : Prop :=
  s.1.codes = none →
    DeviceGrant.poll s = (.error (.fault .notStarted), s) ∧
      ∀ sleep limit, waitWith sleep limit s = (.error (.fault .notStarted), s)

omit [Time.Clock τ] in
theorem startsOnce (s : DeviceGrant τ × World σ τ) : StartsOnce s := by
  refine ⟨fun codes hcodes => start_of_pending hcodes, fun hnone => ⟨fun request hr => ?_, ?_⟩⟩
  · exact (start_answered hnone hr).1.sent
  · intro hr
    obtain ⟨hquiet, hsame, hescape⟩ := start_quiet hnone hr
    exact ⟨hquiet.sent, hsame, hescape⟩

theorem keepsFlow_of_cleared {s : DeviceGrant τ × World σ τ} {a : DeviceStep σ τ}
    (hends : (a.run s).1.EndsFlow) (h : (a.run s).2.1 = s.1.cleared) : KeepsFlow s a where
  ends _ := h
  stores _ _ hstarted := (hstarted ▸ hends).elim
  keeps hnot := absurd hends hnot

theorem keepsFlow_of_same {s : DeviceGrant τ × World σ τ} {a : DeviceStep σ τ}
    (hnot : ¬(a.run s).1.EndsFlow) (hfresh : s.1.codes = none →
      ∀ codes, (a.run s).1 ≠ .started (.ok codes)) (h : (a.run s).2.1 = s.1) : KeepsFlow s a where
  ends hends := absurd hends hnot
  stores codes hnone hstarted := absurd hstarted (hfresh hnone codes)
  keeps _ := .inl h

theorem keepsFlow_start (s : DeviceGrant τ × World σ τ) :
    KeepsFlow s (.start : DeviceStep σ τ) := by
  cases hs : s.1.codes with
  | some codes =>
    refine keepsFlow_of_same nofun (fun hnone => ?_) (congrArg (·.2.1) (start_of_pending hs))
    rw [hs] at hnone
    cases hnone
  | none =>
    by_cases hr : ∃ request, CanStart s request
    · obtain ⟨request, hr⟩ := hr
      rcases (start_answered hs hr).2 with ⟨codes, hcodes, hstarted⟩ | ⟨e, he, hsame⟩
      · refine ⟨nofun, fun codes' _ hcodes' => ?_, fun _ => .inr ⟨codes, hs, ?_, hstarted⟩⟩
        · cases hcodes.symm.trans (DeviceOutcome.started.inj hcodes')
          exact hstarted
        · exact congrArg DeviceOutcome.started hcodes
      · refine keepsFlow_of_same nofun (fun _ codes hcodes => ?_) hsame
        cases he.symm.trans (DeviceOutcome.started.inj hcodes)
    · obtain ⟨-, hsame, e, he⟩ := start_quiet hs fun request h => hr ⟨request, h⟩
      refine keepsFlow_of_same nofun (fun _ codes hcodes => ?_) hsame
      cases he.symm.trans (DeviceOutcome.started.inj hcodes)

theorem run_ne_started {a : DeviceStep σ τ} (ha : a ≠ .start) (s : DeviceGrant τ × World σ τ)
    (r : Except (Failure DeviceFault) DeviceCodes) : (a.run s).1 ≠ .started r := by
  cases a with
  | start => exact absurd rfl ha
  | poll | wait | elsewhere => simp [DeviceStep.run]

theorem keepsFlow (s : DeviceGrant τ × World σ τ) (a : DeviceStep σ τ) : KeepsFlow s a := by
  cases a with
  | start => exact keepsFlow_start s
  | poll =>
    have hother (codes : DeviceCodes) : (DeviceStep.poll.run s).1 ≠ .started (.ok codes) :=
      run_ne_started (by simp) s _
    rcases poll_cases (s := s) rfl with ⟨token, hr, hcleared⟩ | ⟨hr, hsame⟩ | ⟨e, hr, -, hsame⟩
    · exact keepsFlow_of_cleared ⟨token, hr⟩ hcleared
    · refine keepsFlow_of_same ?_ (fun _ => hother) hsame
      rintro ⟨token, htoken⟩
      cases hr.symm.trans htoken
    · refine keepsFlow_of_same ?_ (fun _ => hother) hsame
      rintro ⟨token, htoken⟩
      cases hr.symm.trans htoken
  | wait sleep limit =>
    have hother (codes : DeviceCodes) :
        ((DeviceStep.wait sleep limit).run s).1 ≠ .started (.ok codes) :=
      run_ne_started (by simp) s _
    rcases waitWith_cases (rfl : waitWith sleep limit s = (_, _)) with
      ⟨token, hr, hcleared⟩ | ⟨hr, hcleared⟩ | ⟨e, hr, hne, hsame⟩
    · exact keepsFlow_of_cleared (.inl ⟨token, hr⟩) hcleared
    · exact keepsFlow_of_cleared (.inr hr) hcleared
    · refine keepsFlow_of_same ?_ (fun _ => hother) hsame
      rintro (⟨token, htoken⟩ | hexpired)
      · cases hr.symm.trans htoken
      · exact hne (Except.error.inj (hr.symm.trans hexpired))
  | elsewhere change =>
    exact keepsFlow_of_same nofun (fun _ _ => run_ne_started (by simp) s _) rfl

theorem isIdle (s : DeviceGrant τ × World σ τ) : IsIdle s :=
  fun hnone => ⟨poll_idle hnone, waitWith_idle hnone⟩

/-! ## Runs -/

/-- A device flow in its world, and what the flow does not know: the last start that sent a
request. -/
structure DeviceRun (σ τ : Type) where
  /-- The flow. -/
  grant : DeviceGrant τ
  /-- The world. -/
  world : World σ τ
  /-- What came of the last start that sent a request, and what the clock read when the request was
  answered. -/
  lastStart : Option (Except (Failure DeviceFault) DeviceCodes × τ) := none

namespace DeviceRun

/-- A run at its beginning. -/
def fresh (clientId : Option ClientId) (scopes : List Scope) (clientSecret : Option ClientSecret)
    (w : World σ τ) : DeviceRun σ τ where
  grant := { clientId := clientId, scopes := scopes, clientSecret := clientSecret }
  world := w

/-- The run after one more step. -/
def step (r : DeviceRun σ τ) (a : DeviceStep σ τ) : DeviceRun σ τ :=
  let (outcome, g, w) := a.run (r.grant, r.world)
  { grant := g
    world := w
    lastStart :=
      match outcome with
      | .started result =>
        if r.world.sent.toList.length < w.sent.toList.length then
          some (result, r.world.answerTime)
        else r.lastStart
      | _ => r.lastStart }

/-- The run after several steps. -/
def after (r : DeviceRun σ τ) (steps : List (DeviceStep σ τ)) : DeviceRun σ τ :=
  steps.foldl step r

/-- The codes and the time of the start are there together, and then they are those of the last
start that sent a request. -/
def KeepsLast (r : DeviceRun σ τ) : Prop :=
  (r.grant.codes.isSome ↔ r.grant.startedAt.isSome) ∧
    ∀ codes, r.grant.codes = some codes →
      ∃ t, r.grant.startedAt = some t ∧ r.lastStart = some (.ok codes, t)

/-! ## Every run -/

variable {r : DeviceRun σ τ}

omit [Http.Server σ] [Time.Clock τ] in
theorem keepsLast_of_cleared {g : DeviceGrant τ} (h : r.grant = g.cleared) : r.KeepsLast := by
  unfold KeepsLast
  rw [h]
  simp [cleared]

omit [Http.Server σ] [Time.Clock τ] in
theorem KeepsLast.of_same {r' : DeviceRun σ τ} (h : r.KeepsLast) (hg : r'.grant = r.grant)
    (hl : r'.lastStart = r.lastStart) : r'.KeepsLast := by
  unfold KeepsLast
  rw [hg, hl]
  exact h

theorem keepsLast_start (h : r.KeepsLast) : (r.step .start).KeepsLast := by
  obtain ⟨g, w, last⟩ := r
  have hgrant : (step ⟨g, w, last⟩ .start).grant = (DeviceGrant.start (g, w)).2.1 := rfl
  have hlast : (step ⟨g, w, last⟩ .start).lastStart =
      if w.sent.toList.length < (DeviceGrant.start (g, w)).2.2.sent.toList.length then
        some ((DeviceGrant.start (g, w)).1, w.answerTime)
      else last := rfl
  cases hg : g.codes with
  | some codes =>
    rw [start_of_pending hg, if_neg (Nat.lt_irrefl _)] at hlast
    rw [start_of_pending hg] at hgrant
    exact h.of_same hgrant hlast
  | none =>
    by_cases hr : ∃ request, CanStart (g, w) request
    · obtain ⟨request, hr⟩ := hr
      obtain ⟨hans, hkept⟩ := start_answered hg hr
      have hmore : w.sent.toList.length < (DeviceGrant.start (g, w)).2.2.sent.toList.length := by
        rw [hans.sent, Trail.toList_add, List.length_append]
        exact Nat.lt_succ_self _
      rw [if_pos hmore] at hlast
      rcases hkept with ⟨codes, hcodes, hstarted⟩ | ⟨e, -, hsame⟩
      · rw [hcodes] at hlast
        rw [hstarted] at hgrant
        unfold KeepsLast
        rw [hgrant, hlast]
        simp [started]
      · -- the last start is another one now, but there are still no codes
        unfold KeepsLast
        rw [hgrant, hsame]
        refine ⟨h.1, fun codes hcodes => ?_⟩
        rw [hg] at hcodes
        cases hcodes
    · obtain ⟨hquiet, hsame, -⟩ := start_quiet hg fun request h => hr ⟨request, h⟩
      rw [hquiet.sent, if_neg (Nat.lt_irrefl _)] at hlast
      exact h.of_same (hgrant.trans hsame) hlast

theorem keepsLast_step (h : r.KeepsLast) (a : DeviceStep σ τ) : (r.step a).KeepsLast := by
  cases a with
  | start => exact keepsLast_start h
  | poll =>
    rcases poll_cases (s := (r.grant, r.world)) rfl with
      ⟨_, -, hcleared⟩ | ⟨-, hsame⟩ | ⟨_, -, -, hsame⟩
    · exact keepsLast_of_cleared hcleared
    · exact h.of_same hsame rfl
    · exact h.of_same hsame rfl
  | wait sleep limit =>
    rcases waitWith_cases (rfl : waitWith sleep limit (r.grant, r.world) = (_, _)) with
      ⟨_, -, hcleared⟩ | ⟨-, hcleared⟩ | ⟨_, -, -, hsame⟩
    · exact keepsLast_of_cleared hcleared
    · exact keepsLast_of_cleared hcleared
    · exact h.of_same hsame rfl
  | elsewhere change => exact h.of_same rfl rfl

theorem keepsLast_after (h : r.KeepsLast) (steps : List (DeviceStep σ τ)) :
    (r.after steps).KeepsLast := by
  induction steps generalizing r with
  | nil => exact h
  | cons a steps ih => exact ih (keepsLast_step h a)

/-- What holds in every state that a device flow gets to, whatever its client, its scopes and its
secret are, whatever the server answers, and whatever happens meanwhile. -/
theorem reachable_holds (clientId : Option ClientId) (scopes : List Scope)
    (clientSecret : Option ClientSecret) (w : World σ τ) (steps : List (DeviceStep σ τ)) :
    let r := (fresh clientId scopes clientSecret w).after steps
    r.KeepsLast ∧ StartsOnce (r.grant, r.world) ∧ (∀ a, KeepsFlow (r.grant, r.world) a) ∧
      IsIdle (r.grant, r.world) := by
  intro r
  have hfresh : (fresh clientId scopes clientSecret w).KeepsLast := by
    simp [KeepsLast, fresh]
  exact ⟨keepsLast_after hfresh steps, startsOnce _, keepsFlow _, isIdle _⟩

/-- A start without codes may send nothing: here the settings do not load. -/
theorem start_sends_nothing :
    ¬∀ (clientId : Option ClientId) (w : World Http.Offline Float)
        (steps : List (DeviceStep Http.Offline Float)),
      let r := (fresh clientId [] none w).after steps
      r.grant.codes = none →
        (r.step .start).world.sent.toList.length = r.world.sent.toList.length + 1 := by
  intro h
  have hone := h (some ⟨"cid"⟩)
    { server := ⟨⟩, client := .bare, now := 0.0
      settings := .error [⟨[.key "http_timeout"], .numberUnreadable⟩] } [] rfl
  exact absurd hone (by decide)

end DeviceRun

end Bearer
