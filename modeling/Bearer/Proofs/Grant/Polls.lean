import Bearer.Http.Script
import Bearer.Proofs.Flow.Keeping
import Bearer.Proofs.Operation.Closed
import Mathlib.Data.Nat.Find
import Mathlib.Logic.Function.Iterate

/-!
# The polls of a wait

A wait polls, and while the user has not answered yet it sleeps and polls again. Where only sleeps
move the clock, this is told by the worlds that the polls are made in: each of them comes from the
one before by a pending poll and a sleep of the same length, and a wait ends with the first poll
that is not pending, or with the first one behind which the next would be past the deadline.

* `poll_of_isPending`, `poll_of_not_isPending`: what a poll comes to, by its answer.
* `rested_atPoll`, `exchanged_atPoll`: what is slept and sent up to a poll.
* `Waits.ended`, `Waits.expired`, `Waits.unfinished`: what a wait comes to.
* `Waits.expires_iff`: whether a wait expires if every poll is pending.
-/
namespace Bearer

open Time (Clock)

variable {σ τ : Type}

namespace World

/-- Only sleeps move the clock. -/
def IsStill (w : World σ τ) : Prop :=
  w.answeredAt = fun _ now => now

/-- From `w` to `w'` nobody sleeps, and the clock stands still. -/
structure Awake (w w' : World σ τ) : Prop where
  slept : w'.slept = w.slept
  now : w'.now = w.now
  still : w'.IsStill

variable {u v w : World σ τ}

theorem lasts_awake : Lasts fun w w' : World σ τ => w.IsStill → w.Awake w' where
  refl _ hw := ⟨rfl, rfl, hw⟩
  trans h h' hu :=
    ⟨(h' (h hu).still).slept.trans (h hu).slept, (h' (h hu).still).now.trans (h hu).now,
      (h' (h hu).still).still⟩
  logged _ _ hw := ⟨rfl, rfl, hw⟩
  answered w _ _ hw := ⟨rfl, congrFun (congrFun hw _) w.now, hw⟩

end World

open World

namespace DeviceGrant

variable [Http.Server σ] {g : DeviceGrant τ} {codes : DeviceCodes} {w : World σ τ}

/-! ## One poll -/

open Bearer.Flow in
theorem keeps_pollWith {R : World σ τ → World σ τ → Prop} (hR : Lasts R) (g : DeviceGrant τ)
    (codes : DeviceCodes) : Keeps R (g.pollWith codes) := by
  refine (keeps_prepare hR _).bind hR fun request => Keeps.bind hR ?_ fun answer => ?_
  · refine ((keeps_call hR request _).bind hR fun a => keeps_pure hR _).handle hR fun f => ?_
    unfold pollFault
    split
    · split
      · exact keeps_pure hR _
      · exact keeps_fail hR _
    · exact keeps_fail hR _
  · cases answer with
    | none => exact keeps_pure hR _
    | some answer =>
      exact ((UserToken.keeps_ofExisting hR _ _ _).mapFault _).bind hR fun token =>
        (keeps_note hR _ _ _).bind hR fun _ => keeps_pure hR _

theorem poll_eq (hg : g.codes = some codes) (w : World σ τ) :
    ((poll (g, w)).1, (poll (g, w)).2.2) = g.pollWith codes w := by
  have hpoll := congrFun (holding_poll g) w
  rw [hg] at hpoll
  exact hpoll

/-- A poll does not sleep, and takes no time on a clock that only sleeps move. -/
theorem awake_poll (hg : g.codes = some codes) (hw : w.IsStill) : w.Awake (poll (g, w)).2.2 := by
  have hkeeps := keeps_pollWith lasts_awake g codes w hw
  rw [← poll_eq hg w] at hkeeps
  exact hkeeps

theorem poll_of_isPending (hg : g.codes = some codes) (h : g.IsPending codes w) :
    poll (g, w) = (.ok none, (g, (poll (g, w)).2.2)) := by
  obtain ⟨v, hv⟩ := isPending_iff.1 h
  rw [← poll_eq hg w, Prod.mk.injEq] at hv
  have hrun : poll (g, w) = ((poll (g, w)).1, (poll (g, w)).2) := rfl
  rcases poll_cases hrun with ⟨_, hsome, -⟩ | ⟨hnone, hsame⟩ | ⟨_, herror, -⟩
  · rw [hv.1] at hsome
    cases hsome
  · exact Prod.ext hnone (Prod.ext hsame rfl)
  · rw [hv.1] at herror
    cases herror

/-- Any other answer makes the poll come to a token or fail. -/
theorem poll_of_not_isPending (hg : g.codes = some codes) (h : ¬g.IsPending codes w) :
    ∃ r : Except (Failure DeviceFault) (UserToken τ), (poll (g, w)).1 = r.map some := by
  rcases hr : (poll (g, w)).1 with e | _ | token
  · exact ⟨.error e, rfl⟩
  · have hpoll := poll_eq hg w
    rw [hr] at hpoll
    exact absurd (isPending_iff.2 ⟨_, hpoll.symm⟩) h
  · exact ⟨.ok token, rfl⟩

/-- A pending poll is one more request. -/
theorem IsPending.exchanged (hg : g.codes = some codes) {request : Http.Request}
    (hr : g.pollRequest w.settings codes = .ok request) {k : ℕ} {v : World σ τ}
    (hbefore : Exchanged (List.replicate k (w.client.prepare request)) w v)
    (h : g.IsPending codes v) :
    Exchanged (List.replicate (k + 1) (w.client.prepare request)) w (poll (g, v)).2.2 := by
  obtain ⟨v', hv'⟩ := isPending_iff.1 h
  obtain ⟨request', a, hmade, hsend, -⟩ := pollWith_none_iff.1 hv'
  -- the settings are the same all the time, and so is the request
  rw [hbefore.settings, hr] at hmade
  cases hmade
  rw [← poll_eq hg v, Prod.mk.injEq] at hv'
  have hsent := (Flow.send_ok hsend).1
  rw [hbefore.client] at hsent
  rw [hv'.2, List.replicate_succ']
  exact hbefore.trans hsent

/-! ## One poll after another -/

variable [Clock τ]

/-- The world in which the next poll is made, if the first one is pending. -/
def nextPoll (g : DeviceGrant τ) (interval : τ) (w : World σ τ) : World σ τ :=
  ((poll (g, w)).2.2.logged ⟨.debug, Logging.loggerOf "tokens.device_code",
    "Authorization pending, polling again in " ++ Clock.text interval ++ "s"⟩).rested interval

/-- The world in which a poll is made that has so many before it, if they are pending. -/
def atPoll (g : DeviceGrant τ) (interval : τ) (w : World σ τ) (k : ℕ) : World σ τ :=
  (g.nextPoll interval)^[k] w

variable {interval deadline : τ} {sleep : τ → Flow (World σ τ) Empty Unit}

/-- A wait ends with a poll that is not pending. -/
theorem pollUntil_of_map {r : Except (Failure DeviceFault) (UserToken τ)}
    {s' : DeviceGrant τ × World σ τ} (h : poll (g, w) = (r.map some, s')) (limit : ℕ) :
    pollUntil sleep interval deadline (limit + 1) (g, w) = (r, s') := by
  rw [pollUntil]
  cases r with
  | error e => exact Flow.bind_error h
  | ok token => exact Flow.bind_ok h

/-- It ends with a pending poll if the next one would be past the deadline. -/
theorem pollUntil_of_isLater {v : World σ τ} (h : poll (g, w) = (.ok none, (g, v)))
    (hlate : Clock.isLater (Clock.add v.now interval) deadline = true) (limit : ℕ) :
    pollUntil sleep interval deadline (limit + 1) (g, w) =
      (.error (.fault .expired), (g.cleared, v)) := by
  rw [pollUntil, Flow.bind_ok h]
  simp only
  rw [Flow.bind_ok (Flow.beside_eq (Flow.now_apply v) g), if_pos hlate]
  rfl

/-- It goes on with the next poll if that is not past the deadline. -/
theorem pollUntil_of_not_isLater {v : World σ τ} (h : poll (g, w) = (.ok none, (g, v)))
    (hlate : Clock.isLater (Clock.add v.now interval) deadline = false) (limit : ℕ) :
    pollUntil Flow.sleep interval deadline (limit + 1) (g, w) =
      pollUntil Flow.sleep interval deadline limit (g, g.nextPoll interval w) := by
  have hv : (poll (g, w)).2.2 = v := by rw [h]
  rw [pollUntil, Flow.bind_ok h, nextPoll, hv]
  simp only
  rw [Flow.bind_ok (Flow.beside_eq (Flow.now_apply v) g),
    if_neg (Bool.eq_false_iff.1 hlate)]
  rfl

/-! ## A wait on a clock that only sleeps move -/

/-- From `w` to `v` the interval is slept so many times, and only that moves the clock. -/
structure Rested (interval : τ) (k : ℕ) (w v : World σ τ) : Prop where
  now : v.now = (Clock.add · interval)^[k] w.now
  slept : v.slept.toList = w.slept.toList ++ List.replicate k interval
  still : v.IsStill

omit [Http.Server σ] in
theorem Rested.awake {k : ℕ} {u v w : World σ τ} (h : Rested interval k u v) (h' : v.Awake w) :
    Rested interval k u w :=
  ⟨h'.now.trans h.now, by rw [h'.slept]; exact h.slept, h'.still⟩

/-- One sleep stands between each two polls, and none in front of the first one. -/
theorem rested_atPoll (hg : g.codes = some codes) (hw : w.IsStill) (interval : τ) (k : ℕ) :
    Rested interval k w (g.atPoll interval w k) := by
  induction k with
  | zero => exact ⟨rfl, (List.append_nil _).symm, hw⟩
  | succ k ih =>
    have hpoll := ih.awake (awake_poll hg ih.still)
    rw [atPoll, Function.iterate_succ_apply']
    refine ⟨?_, ?_, hpoll.still⟩
    · rw [Function.iterate_succ_apply', ← hpoll.now]
      rfl
    · rw [List.replicate_succ', ← List.append_assoc, ← hpoll.slept]
      exact Trail.toList_add _ _

/-- The polls before one are all that is sent. -/
theorem exchanged_atPoll (hg : g.codes = some codes) {request : Http.Request}
    (hr : g.pollRequest w.settings codes = .ok request) {k : ℕ}
    (h : ∀ j < k, g.IsPending codes (g.atPoll interval w j)) :
    Exchanged (List.replicate k (w.client.prepare request)) w (g.atPoll interval w k) := by
  induction k with
  | zero => exact .refl w
  | succ k ih =>
    have hbefore := ih fun j hj => h j (Nat.lt_succ_of_lt hj)
    have hall := (h k (Nat.lt_succ_self k)).exchanged hg hr hbefore
    rw [atPoll, Function.iterate_succ_apply']
    -- writing to the log and sleeping send nothing
    exact ⟨hall.sent, hall.server, hall.client, hall.settings⟩

/-- The poll behind one that is made in `w` would be past the deadline. -/
def IsLast (interval deadline : τ) (w : World σ τ) : Prop :=
  Clock.isLater (Clock.add w.now interval) deadline = true

/-- A wait gets to a poll if those before it are pending and none of them is the last one. -/
theorem pollUntil_atPoll (hg : g.codes = some codes) (hw : w.IsStill) {k : ℕ}
    (h : ∀ j < k, g.IsPending codes (g.atPoll interval w j) ∧
      ¬IsLast interval deadline (g.atPoll interval w j)) (limit : ℕ) :
    pollUntil Flow.sleep interval deadline (limit + k) (g, w) =
      pollUntil Flow.sleep interval deadline limit (g, g.atPoll interval w k) := by
  induction k generalizing limit with
  | zero => rfl
  | succ k ih =>
    obtain ⟨hpending, hlast⟩ := h k (Nat.lt_succ_self k)
    have hnow := (awake_poll hg (rested_atPoll hg hw interval k).still).now
    have hnotLater : Clock.isLater (Clock.add (poll (g, g.atPoll interval w k)).2.2.now interval)
        deadline = false := by
      rw [hnow]
      exact Bool.not_eq_true _ ▸ hlast
    have hbefore := ih (fun j hj => h j (Nat.lt_succ_of_lt hj)) (limit + 1)
    rw [Nat.add_right_comm] at hbefore
    rw [← Nat.add_assoc, hbefore,
      pollUntil_of_not_isLater (poll_of_isPending hg hpending) hnotLater,
      atPoll, atPoll, Function.iterate_succ_apply']

/-! ## A wait -/

end DeviceGrant

/-- The time between two polls. -/
def DeviceCodes.period [Clock τ] (codes : DeviceCodes) : τ :=
  Clock.ofSpan codes.interval

/-- When codes expire that were got at a reading of the clock. -/
def DeviceCodes.deadline [Clock τ] (codes : DeviceCodes) (start : τ) : τ :=
  Clock.add start (Clock.ofSpan codes.expiresIn)

namespace DeviceGrant

variable [Http.Server σ] [Clock τ] {g : DeviceGrant τ} {codes : DeviceCodes} {w : World σ τ}
  {start : τ} {k limit : ℕ}

/-- The flow got the codes at `start`, and in its world only sleeps move the clock. -/
structure Waits (g : DeviceGrant τ) (codes : DeviceCodes) (start : τ) (w : World σ τ) : Prop where
  codes : g.codes = some codes
  startedAt : g.startedAt = some start
  still : w.IsStill

/-- The answer to the poll with so many before it is that the user has not answered yet. -/
def IsPendingAt (g : DeviceGrant τ) (codes : DeviceCodes) (w : World σ τ) (k : ℕ) : Prop :=
  g.IsPending codes (g.atPoll codes.period w k)

/-- After each of the first polls a wait goes on. -/
def GoesOnTo (g : DeviceGrant τ) (codes : DeviceCodes) (start : τ) (w : World σ τ) (k : ℕ) : Prop :=
  ∀ j < k, g.IsPendingAt codes w j ∧
    ¬IsLast codes.period (codes.deadline start) (g.atPoll codes.period w j)

theorem Waits.wait_eq (h : g.Waits codes start w) (hk : g.GoesOnTo codes start w k) (limit : ℕ) :
    wait (limit + k) (g, w) =
      pollUntil Flow.sleep codes.period (codes.deadline start) limit
        (g, g.atPoll codes.period w k) := by
  unfold wait waitWith
  rw [Flow.bind_ok (Flow.held_apply (g, w))]
  simp only [h.codes, h.startedAt]
  exact pollUntil_atPoll h.codes h.still hk limit

/-- A wait comes to what the first poll comes to that is not pending. -/
theorem Waits.ended (h : g.Waits codes start w) (hk : g.GoesOnTo codes start w k)
    (hnot : ¬g.IsPendingAt codes w k) :
    ∃ r s', poll (g, g.atPoll codes.period w k) = (r.map some, s') ∧
      (g.atPoll codes.period w k).Awake s'.2 ∧
      ∀ limit, k < limit → wait limit (g, w) = (r, s') := by
  obtain ⟨r, hr⟩ := poll_of_not_isPending h.codes hnot
  have hstill := (rested_atPoll h.codes h.still codes.period k).still
  refine ⟨r, _, Prod.ext hr rfl, awake_poll h.codes hstill, fun limit hlimit => ?_⟩
  obtain ⟨n, rfl⟩ := Nat.exists_eq_add_of_lt hlimit
  rw [show k + n + 1 = n + 1 + k by omega, h.wait_eq hk]
  exact pollUntil_of_map (Prod.ext hr rfl) n

/-- A wait expires with a pending poll that is the last one. -/
theorem Waits.expired (h : g.Waits codes start w) (hk : g.GoesOnTo codes start w k)
    (hpending : g.IsPendingAt codes w k)
    (hlast : IsLast codes.period (codes.deadline start) (g.atPoll codes.period w k)) :
    ∃ v, Rested codes.period k w v ∧
      (∀ request, g.pollRequest w.settings codes = .ok request →
        Exchanged (List.replicate (k + 1) (w.client.prepare request)) w v) ∧
      ∀ limit, k < limit → wait limit (g, w) = (.error (.fault .expired), (g.cleared, v)) := by
  have hrested := rested_atPoll h.codes h.still codes.period k
  have hpoll := awake_poll h.codes hrested.still
  refine ⟨_, hrested.awake hpoll, fun request hr => ?_, fun limit hlimit => ?_⟩
  · have hbefore := exchanged_atPoll h.codes hr fun j hj => (hk j hj).1
    exact IsPending.exchanged h.codes hr hbefore hpending
  · obtain ⟨n, rfl⟩ := Nat.exists_eq_add_of_lt hlimit
    rw [show k + n + 1 = n + 1 + k by omega, h.wait_eq hk]
    refine pollUntil_of_isLater (poll_of_isPending h.codes hpending) ?_ n
    rw [hpoll.now]
    exact hlast

/-- A wait has not ended after so many polls if it goes on after each of them. -/
theorem Waits.unfinished (h : g.Waits codes start w) (hk : g.GoesOnTo codes start w limit) :
    wait limit (g, w) = (.error (.escape .unfinished), (g, g.atPoll codes.period w limit)) := by
  have hwait := h.wait_eq hk 0
  rw [Nat.zero_add] at hwait
  rw [hwait, pollUntil]
  rfl

/-! ## Whether a wait ends -/

/-- Some wait expires. -/
def Expires (g : DeviceGrant τ) (w : World σ τ) : Prop :=
  ∃ limit s', wait limit (g, w) = (.error (.fault .expired), s')

/-- Where every poll is pending, a wait expires if there is a last poll. -/
theorem Waits.expires_of_isLast (h : g.Waits codes start w)
    (hpending : ∀ k, g.IsPendingAt codes w k)
    (hex : ∃ k, IsLast codes.period (codes.deadline start) (g.atPoll codes.period w k)) :
    g.Expires w := by
  classical
  -- the wait ends with the first poll that may be the last one
  obtain ⟨v, -, -, hwait⟩ := h.expired (k := Nat.find hex)
    (fun j hj => ⟨hpending j, Nat.find_min hex hj⟩) (hpending _) (Nat.find_spec hex)
  exact ⟨_, _, hwait _ (Nat.lt_succ_self _)⟩

/-- If it does not expire it goes on, for as many polls as it is let make. -/
theorem Waits.unfinished_of_not_expires (h : g.Waits codes start w)
    (hpending : ∀ k, g.IsPendingAt codes w k) (hnot : ¬g.Expires w) (limit : ℕ) :
    wait limit (g, w) = (.error (.escape .unfinished), (g, g.atPoll codes.period w limit)) :=
  h.unfinished fun j _ => ⟨hpending j, fun hlast => hnot (h.expires_of_isLast hpending ⟨j, hlast⟩)⟩

/-- It expires exactly if one of the moments after whole periods is past the deadline. -/
theorem Waits.expires_iff (h : g.Waits codes start w) (hpending : ∀ k, g.IsPendingAt codes w k) :
    g.Expires w ↔ ∃ k : ℕ,
      Clock.isLater ((Clock.add · codes.period)^[k + 1] w.now) (codes.deadline start) = true := by
  have hlast (k : ℕ) : IsLast codes.period (codes.deadline start) (g.atPoll codes.period w k) ↔
      Clock.isLater ((Clock.add · codes.period)^[k + 1] w.now) (codes.deadline start) = true := by
    rw [IsLast, (rested_atPoll h.codes h.still codes.period k).now, Function.iterate_succ_apply']
  simp only [← hlast]
  refine ⟨?_, h.expires_of_isLast hpending⟩
  rintro ⟨limit, s', hwait⟩
  by_contra hnone
  rw [h.unfinished fun j _ => ⟨hpending j, fun hj => hnone ⟨j, hj⟩⟩] at hwait
  cases hwait

/-! ## A server that never says anything else -/

omit [Clock τ] in
/-- The answer depends on the server, the client and the settings alone. -/
theorem isPending_congr {v : World σ τ} (hserver : v.server = w.server)
    (hclient : v.client = w.client) (hsettings : v.settings = w.settings) :
    g.IsPending codes v ↔ g.IsPending codes w := by
  unfold IsPending CanSend answerTo
  rw [hserver, hclient, hsettings]

/-- A server that a pending poll leaves as it was has every poll pending. -/
theorem isPendingAt_of_server (hg : g.codes = some codes)
    (h : (g.pollWith codes w).1 = .ok none) (hsame : (g.pollWith codes w).2.server = w.server)
    (k : ℕ) : g.IsPendingAt codes w k := by
  have hpending := isPending_iff.2 ⟨_, Flow.ends_of_fst h⟩
  obtain ⟨request, -, hr, -⟩ := id hpending
  have hafter (n : ℕ) :
      Http.Server.after w.server (List.replicate n (w.client.prepare request)) = w.server := by
    have hfirst := IsPending.exchanged hg hr (k := 0) (.refl w) hpending
    rw [← poll_eq hg w] at hsame
    induction n with
    | zero => rfl
    | succ n ih =>
      rw [List.replicate_succ', Http.Server.after_append, ih]
      exact hfirst.server.symm.trans hsame
  induction k using Nat.strongRecOn with
  | ind k ih =>
    have hbefore := exchanged_atPoll hg hr ih
    exact (isPending_congr (hbefore.server.trans (hafter k)) hbefore.client
      hbefore.settings).2 hpending

/-- A script in which a pending poll uses nothing up has every poll pending. -/
theorem isPendingAt_of_script {w : World Http.Script τ} (hg : g.codes = some codes)
    (h : (g.pollWith codes w).1 = .ok none ∧
      (g.pollWith codes w).2.server.queues = w.server.queues) (k : ℕ) :
    g.IsPendingAt codes w k := by
  refine isPendingAt_of_server hg h.1 ?_ k
  generalize (g.pollWith codes w).2.server = server at h
  cases server
  exact congrArg Http.Script.mk h.2

omit [Clock τ] in
/-- Codes that a start gets are waited for from then on. -/
theorem waits_of_start (hg : g.codes = none) (hw : w.IsStill) {s' : DeviceGrant τ × World σ τ}
    (h : DeviceGrant.start (g, w) = (.ok codes, s')) : s'.1.Waits codes s'.2.now s'.2 := by
  rcases start_cases (w := w) hg with ⟨e, -, hstart⟩ | ⟨request, v, -, ⟨codes', l, hcall, hstart⟩ |
    ⟨e, -, hstart⟩⟩
  · rw [h] at hstart
    cases hstart
  · rw [h] at hstart
    cases hstart
    have hkeeps := Flow.keeps_call lasts_awake request RecordKind.deviceCodes w hw
    rw [hcall] at hkeeps
    exact ⟨rfl, rfl, hkeeps.still⟩
  · rw [h] at hstart
    cases hstart

end DeviceGrant

end Bearer
