import Bearer.Proofs.Grant.Polls
import Bearer.Proofs.Time.Exact
import Mathlib.Algebra.Order.Floor.Ring

/-!
# The schedule of a wait

On an exact clock that only sleeps move, the polls of a wait are a period apart. The first one is
made at once, and after it as many as there are whole periods left until the deadline, so that only
the first poll may be late and one that falls on the deadline is made. This takes a period that is
longer than nothing, and nothing sees to that: the interval is what the server names, and with one
of zero or less a wait for a user who never answers has no end, unless the deadline is past from the
beginning.

* `le_periodsLeft_iff`: which polls are due.
* `Waits.keepsSchedule`: the polls and sleeps of a wait, and what it comes to.
* `wait_expires_iff`: whether a wait ends in which every poll is pending, on any clock and on an
  exact one.
-/
namespace Bearer

open Time (Clock)
open World

variable {σ : Type}

namespace DeviceGrant

variable [Http.Server σ] {g : DeviceGrant ℚ} {codes : DeviceCodes} {w : World σ ℚ} {start : ℚ}

theorem iterate_add (period now : ℚ) (k : ℕ) :
    (Clock.add · period)^[k] now = now + k * period := by
  induction k with
  | zero => simp
  | succ k ih =>
    rw [Function.iterate_succ_apply', ih]
    show now + k * period + period = _
    push_cast
    ring

/-- The whole periods that end by the deadline. -/
def periodsLeft (now period deadline : ℚ) : ℕ :=
  ⌊(deadline - now) / period⌋.toNat

theorem succ_le_periodsLeft_iff {now period deadline : ℚ} (hperiod : 0 < period) {k : ℕ} :
    k + 1 ≤ periodsLeft now period deadline ↔ now + (k + 1 : ℕ) * period ≤ deadline := by
  rw [periodsLeft, Nat.add_one_le_iff, Int.lt_toNat, ← Int.add_one_le_iff, Int.le_floor,
    le_div_iff₀ hperiod, ← le_sub_iff_add_le']
  push_cast
  rfl

theorem le_periodsLeft_iff {now period deadline : ℚ} (hperiod : 0 < period) {k : ℕ} :
    k ≤ periodsLeft now period deadline ↔ k = 0 ∨ now + k * period ≤ deadline := by
  cases k with
  | zero => simp
  | succ k => rw [succ_le_periodsLeft_iff hperiod, or_iff_right (Nat.succ_ne_zero k)]

/-- A poll is the last one if no whole period is left after it. -/
theorem Waits.isLast_iff (h : g.Waits codes start w) (hperiod : 0 < (codes.period : ℚ)) (k : ℕ) :
    IsLast codes.period (codes.deadline start) (g.atPoll codes.period w k) ↔
      periodsLeft w.now codes.period (codes.deadline start) ≤ k := by
  rw [← Nat.lt_succ_iff, ← not_le, succ_le_periodsLeft_iff hperiod, not_le, IsLast,
    (rested_atPoll h.codes h.still codes.period k).now,
    ← Function.iterate_succ_apply' (Clock.add · codes.period), iterate_add]
  exact decide_eq_true_iff

/-- From `w` to `v` so many polls are made, and the period is slept so many times. -/
structure Paced (g : DeviceGrant ℚ) (codes : DeviceCodes) (polls sleeps : ℕ) (w v : World σ ℚ) :
    Prop where
  now : v.now = w.now + sleeps * codes.period
  slept : v.slept.toList = w.slept.toList ++ List.replicate sleeps codes.period
  sent (request : Http.Request) : g.pollRequest w.settings codes = .ok request →
    v.sent.toList = w.sent.toList ++ List.replicate polls (w.client.prepare request)

theorem Rested.paced {k n : ℕ} {v : World σ ℚ} (h : Rested codes.period k w v)
    (hsent : ∀ request, g.pollRequest w.settings codes = .ok request →
      Exchanged (List.replicate n (w.client.prepare request)) w v) :
    g.Paced codes n k w v :=
  ⟨h.now.trans (iterate_add _ _ k), h.slept, fun request hr => (hsent request hr).sent⟩

/-- The schedule of a wait with codes that were got at `start`: the polls have the numbers from zero
on, and the number of the last one that is due is that of the periods left. -/
structure KeepsSchedule (g : DeviceGrant ℚ) (codes : DeviceCodes) (start : ℚ) (w : World σ ℚ) :
    Prop where
  /-- The first poll is always due. Another one is if it is not after the deadline; one on the
  deadline is due. -/
  due (k : ℕ) : k ≤ periodsLeft w.now codes.period (codes.deadline start) ↔
    k = 0 ∨ w.now + k * codes.period ≤ codes.deadline start
  /-- A poll is one period after the one before it, and the period is slept once between them. -/
  paced (k : ℕ) : (∀ j < k, g.IsPendingAt codes w j) →
    g.Paced codes k k w (g.atPoll codes.period w k)
  /-- The first poll that is not pending ends the wait with what comes of it, if it is due. -/
  ended (k : ℕ) : k ≤ periodsLeft w.now codes.period (codes.deadline start) →
    (∀ j < k, g.IsPendingAt codes w j) → ¬g.IsPendingAt codes w k →
    ∃ r s', poll (g, g.atPoll codes.period w k) = (r.map some, s') ∧
      (g.atPoll codes.period w k).Awake s'.2 ∧ ∀ limit, k < limit → wait limit (g, w) = (r, s')
  /-- If all polls that are due are pending, these are made, and the codes expire. -/
  expired (k : ℕ) : k = periodsLeft w.now codes.period (codes.deadline start) →
    (∀ j ≤ k, g.IsPendingAt codes w j) →
    ∃ v, g.Paced codes (k + 1) k w v ∧
      ∀ limit, k < limit → wait limit (g, w) = (.error (.fault .expired), (g.cleared, v))

/-- Up to a poll that is due a wait goes on. -/
theorem Waits.goesOnTo (h : g.Waits codes start w) (hperiod : 0 < (codes.period : ℚ)) {k : ℕ}
    (hk : k ≤ periodsLeft w.now codes.period (codes.deadline start))
    (hpending : ∀ j < k, g.IsPendingAt codes w j) : g.GoesOnTo codes start w k := by
  intro j hj
  rw [h.isLast_iff hperiod]
  exact ⟨hpending j hj, by omega⟩

theorem period_pos_iff : 0 < (codes.period : ℚ) ↔ 0 < codes.interval.micros := by
  show 0 < (codes.interval.micros : ℚ) / (Time.perSecond : ℤ) ↔ _
  rw [lt_div_iff₀ (by norm_num), zero_mul, Int.cast_pos]

/-- A wait keeps its schedule, whatever the server answers. -/
theorem Waits.keepsSchedule (h : g.Waits codes start w) (hinterval : 0 < codes.interval.micros) :
    g.KeepsSchedule codes start w where
  due k := le_periodsLeft_iff (period_pos_iff.2 hinterval)
  paced k hpending :=
    (rested_atPoll h.codes h.still codes.period k).paced fun _ hr =>
      exchanged_atPoll h.codes hr hpending
  ended k hk hpending hnot := h.ended (h.goesOnTo (period_pos_iff.2 hinterval) hk hpending) hnot
  expired k hk hpending := by
    have hlast := (h.isLast_iff (period_pos_iff.2 hinterval) k).2 hk.ge
    have hbefore := h.goesOnTo (period_pos_iff.2 hinterval) hk.le fun j hj => hpending j hj.le
    obtain ⟨v, hrested, hsent, hwait⟩ := h.expired hbefore (hpending k le_rfl) hlast
    exact ⟨v, hrested.paced hsent, hwait⟩

/-- Codes of ten seconds, with five seconds between two polls: the third poll falls on the deadline
and is the last one. -/
theorem Waits.keepsSchedule_tenSeconds :
    let pending := Text.Utf8.encode
      "\x7b\x22status\x22:400,\x22message\x22:\x22authorization_pending\x22\x7d".toList
    let codes : DeviceCodes := ⟨"code", ⟨10000000, by decide, by decide⟩,
      ⟨5000000, by decide, by decide⟩, "USER", "https://id.tv"⟩
    let g : DeviceGrant ℚ :=
      { clientId := some ⟨"cid"⟩, scopes := [], clientSecret := none, codes := some codes
        startedAt := some 0 }
    let w : World Http.Script ℚ :=
      { server := ⟨[("/oauth2/token", [.answer ⟨400, [], pending⟩])]⟩
        client := .bare, settings := .ok {}, now := 0 }
    (g.Waits codes 0 w ∧ 0 < codes.interval.micros) ∧ g.KeepsSchedule codes 0 w ∧
      ∃ v, wait 9 (g, w) = (.error (.fault .expired), (g.cleared, v)) ∧
        v.now = 10 ∧ v.slept.toList = [5, 5] ∧ v.sent.toList.length = 3 := by
  intro pending codes g w
  have hwaits : g.Waits codes 0 w := ⟨rfl, rfl, rfl⟩
  have hinterval : 0 < codes.interval.micros := by decide
  have hschedule := hwaits.keepsSchedule hinterval
  have hpending : ∀ k, g.IsPendingAt codes w k := isPendingAt_of_script rfl (by decide +kernel)
  obtain ⟨v, hpaced, hwait⟩ := hschedule.expired 2 (by decide +kernel) fun j _ => hpending j
  obtain ⟨request, -, hr, -⟩ := hpending 0
  refine ⟨⟨hwaits, hinterval⟩, hschedule, v, hwait 9 (by decide), ?_, ?_, ?_⟩
  · rw [hpaced.now]
    decide +kernel
  · rw [hpaced.slept]
    decide +kernel
  · rw [hpaced.sent request hr]
    rfl

/-! ## Whether a wait ends -/

/-- One of the moments after whole periods is past a deadline if the period is longer than nothing,
or if the first of them is. -/
theorem exists_isLater_iff {now period deadline : ℚ} :
    (∃ k : ℕ, Clock.isLater ((Clock.add · period)^[k + 1] now) deadline = true) ↔
      0 < period ∨ deadline < now + period := by
  have hlater (k : ℕ) : Clock.isLater ((Clock.add · period)^[k + 1] now) deadline = true ↔
      deadline < now + (k + 1 : ℕ) * period := by
    rw [iterate_add]
    exact decide_eq_true_iff
  simp only [hlater]
  constructor
  · rintro ⟨k, hk⟩
    by_contra hnone
    push Not at hnone
    have hle : ((k + 1 : ℕ) : ℚ) * period ≤ period := by
      push_cast
      nlinarith [hnone.1, (k.cast_nonneg : (0 : ℚ) ≤ k)]
    linarith [hnone.2]
  · rintro (hpos | hfirst)
    · refine ⟨periodsLeft now period deadline, ?_⟩
      rw [← not_le, ← succ_le_periodsLeft_iff hpos]
      exact Nat.not_succ_le_self _
    · exact ⟨0, by simpa using hfirst⟩

/-- On an exact clock the interval settles whether a wait expires, unless the deadline is past from
the beginning. -/
theorem Waits.expires_iff_pos (h : g.Waits codes start w)
    (hpending : ∀ k, g.IsPendingAt codes w k) :
    g.Expires w ↔
      0 < codes.interval.micros ∨ codes.deadline start < w.now + codes.period := by
  rw [h.expires_iff hpending, exists_isLater_iff, period_pos_iff]

/-- Where a server has every poll pending, a wait expires exactly if one of the moments after whole
periods is past the deadline, and goes on for ever if none is. On an exact clock it expires exactly
if the interval is longer than nothing, or if the first of these moments is past the deadline. -/
theorem wait_expires_iff (codes : DeviceCodes) :
    (∀ {τ : Type} [Clock τ] (g : DeviceGrant τ) (start : τ) (w : World σ τ), g.Waits codes start w →
      (∀ k, g.IsPendingAt codes w k) →
      (g.Expires w ↔ ∃ k : ℕ, Clock.isLater ((Clock.add · codes.period)^[k + 1] w.now)
        (codes.deadline start) = true) ∧
      (¬g.Expires w → ∀ limit, wait limit (g, w) =
        (.error (.escape .unfinished), (g, g.atPoll codes.period w limit)))) ∧
    ∀ (g : DeviceGrant ℚ) (start : ℚ) (w : World σ ℚ), g.Waits codes start w →
      (∀ k, g.IsPendingAt codes w k) →
      (g.Expires w ↔ 0 < codes.interval.micros ∨ codes.deadline start < w.now + codes.period) :=
  ⟨fun _ _ _ h hpending => ⟨h.expires_iff hpending, h.unfinished_of_not_expires hpending⟩,
    fun _ _ _ h hpending => h.expires_iff_pos hpending⟩

/-- With no time between two polls a wait never ends. -/
theorem wait_expires_iff_zero :
    let pending := Text.Utf8.encode
      "\x7b\x22status\x22:400,\x22message\x22:\x22authorization_pending\x22\x7d".toList
    let codes : DeviceCodes := ⟨"code", ⟨1800000000, by decide, by decide⟩, .zero, "USER",
      "https://id.tv"⟩
    let g : DeviceGrant ℚ :=
      { clientId := some ⟨"cid"⟩, scopes := [], clientSecret := none, codes := some codes
        startedAt := some 0 }
    let w : World Http.Script ℚ :=
      { server := ⟨[("/oauth2/token", [.answer ⟨400, [], pending⟩])]⟩
        client := .bare, settings := .ok {}, now := 0 }
    (g.Waits codes 0 w ∧ ∀ k, g.IsPendingAt codes w k) ∧ ¬g.Expires w ∧
      ∀ limit, (wait limit (g, w)).1 = .error (.escape .unfinished) := by
  intro pending codes g w
  have hwaits : g.Waits codes 0 w := ⟨rfl, rfl, rfl⟩
  have hpending : ∀ k, g.IsPendingAt codes w k := isPendingAt_of_script rfl (by decide +kernel)
  have hnot : ¬g.Expires w := by
    rw [(wait_expires_iff codes).2 g 0 w hwaits hpending]
    decide +kernel
  refine ⟨⟨hwaits, hpending⟩, hnot, fun limit => ?_⟩
  rw [((wait_expires_iff codes).1 g 0 w hwaits hpending).2 hnot limit]

/-- Not every wait expires: here a server that gives codes with no time between two polls has every
poll pending. -/
theorem not_always_expires :
    ¬∀ (g : DeviceGrant ℚ) (w : World Http.Script ℚ) (codes : DeviceCodes), g.codes = none →
      w.IsStill → (DeviceGrant.start (g, w)).1 = .ok codes →
      (∀ k, (DeviceGrant.start (g, w)).2.1.IsPendingAt codes (DeviceGrant.start (g, w)).2.2 k) →
      (DeviceGrant.start (g, w)).2.1.Expires (DeviceGrant.start (g, w)).2.2 := by
  intro h
  let given := Text.Utf8.encode ("\x7b\x22device_code\x22:\x22code\x22,\x22expires_in\x22:1800," ++
    "\x22interval\x22:0,\x22user_code\x22:\x22USER\x22," ++
    "\x22verification_uri\x22:\x22https://id.tv\x22\x7d").toList
  let pending := Text.Utf8.encode
    "\x7b\x22status\x22:400,\x22message\x22:\x22authorization_pending\x22\x7d".toList
  let g : DeviceGrant ℚ := { clientId := some ⟨"cid"⟩, scopes := [], clientSecret := none }
  let w : World Http.Script ℚ :=
    { server := ⟨[("/oauth2/device", [.answer ⟨200, [], given⟩]),
        ("/oauth2/token", [.answer ⟨400, [], pending⟩])]⟩
      client := .bare, settings := .ok {}, now := 0 }
  let codes : DeviceCodes := ⟨"code", ⟨1800000000, by decide, by decide⟩, .zero, "USER",
    "https://id.tv"⟩
  have hstart : (DeviceGrant.start (g, w)).1 = .ok codes := by decide +kernel
  have hwaits := waits_of_start (g := g) (w := w) rfl rfl (Flow.ends_of_fst hstart)
  have hpending : ∀ k, (DeviceGrant.start (g, w)).2.1.IsPendingAt codes
      (DeviceGrant.start (g, w)).2.2 k :=
    isPendingAt_of_script hwaits.codes (by decide +kernel)
  rcases (hwaits.expires_iff_pos hpending).1 (h g w codes rfl rfl hstart hpending) with hpos | hpast
  · exact absurd hpos (by decide)
  · generalize (DeviceGrant.start (g, w)).2.2.now = t at hpast
    change t + _ < t + _ at hpast
    rw [add_lt_add_iff_left] at hpast
    exact absurd hpast (by decide +kernel)

end DeviceGrant

end Bearer
