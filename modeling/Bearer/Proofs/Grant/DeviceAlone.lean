import Bearer.Proofs.Flow.Holding
import Bearer.Proofs.Grant.DeviceRun

/-!
# Device flows seen from the world

What a device flow does to the world does not depend on who keeps its codes. Seen from the world, a
start with codes does nothing and one without asks for them, a poll is one flow for the codes that
are there, and a wait is a loop of such polls.

* `holding_start`, `holding_poll`, `holding_waitWith`: the three operations as flows on the world.
-/
namespace Bearer

namespace DeviceGrant

open Time (Clock)

variable {σ τ : Type} [Http.Server σ]

/-- Gets codes. -/
def askCodes (g : DeviceGrant τ) : Flow (World σ τ) DeviceFault DeviceCodes := do
  let request ← Flow.prepare g.startRequest
  let codes ← (Flow.call request .deviceCodes).mapFault DeviceFault.start
  let _ ← Flow.now
  Flow.note .info "tokens.device_code"
    ("Device code flow started, verification at " ++ codes.verificationUri)
  return codes

/-- Asks for a token once; nothing comes of it while the user has not answered yet. -/
def askAnswer (request : Http.Request) : Flow (World σ τ) DeviceFault (Option TokenAnswer) :=
  ((Flow.call request .token : Flow (World σ τ) _ _) >>= fun a => pure (some a)).handle pollFault

/-- The token that an answer brings, once it is validated. -/
def takeToken (g : DeviceGrant τ) (answer : TokenAnswer) :
    Flow (World σ τ) DeviceFault (Option (UserToken τ)) := do
  let token ← (UserToken.ofAnswer answer g.clientSecret).mapFault DeviceFault.validation
  Flow.note .info "tokens.device_code" ("Obtained device user token for " ++ token.shownLogin)
  return some token

/-- Polls once with codes. -/
def pollWith (g : DeviceGrant τ) (codes : DeviceCodes) :
    Flow (World σ τ) DeviceFault (Option (UserToken τ)) := do
  let request ← Flow.prepare (g.pollRequest · codes)
  match ← askAnswer request with
  | none => return none
  | some answer => g.takeToken answer

theorem holding_start (g : DeviceGrant τ) :
    Flow.holding g (start : Flow (DeviceGrant τ × World σ τ) _ _) =
      match g.codes with
      | some codes => pure codes
      | none => g.askCodes := by
  unfold start
  rw [Flow.holding_held]
  cases hg : g.codes <;> simp [askCodes]

theorem holding_poll (g : DeviceGrant τ) :
    Flow.holding g (poll : Flow (DeviceGrant τ × World σ τ) _ _) =
      match g.codes with
      | none => Flow.fail .notStarted
      | some codes => g.pollWith codes := by
  unfold poll
  rw [Flow.holding_held]
  cases hg : g.codes with
  | none => rfl
  | some codes =>
    simp only [Flow.holding_beside]
    unfold pollWith askAnswer
    congr
    funext request
    congr
    funext answer
    cases answer <;> simp [takeToken]

variable [Clock τ]

/-- Polls with codes and sleeps in turn. -/
def pollLoop (g : DeviceGrant τ) (codes : DeviceCodes) (sleep : τ → Flow (World σ τ) Empty Unit)
    (interval deadline : τ) : Nat → Flow (World σ τ) DeviceFault (UserToken τ)
  | 0 => Flow.escape .unfinished
  | limit + 1 => do
    match ← g.pollWith codes with
    | some token => return token
    | none =>
      if Clock.isLater (Clock.add (← Flow.now) interval) deadline then Flow.fail .expired
      else
        Flow.note .debug "tokens.device_code"
          ("Authorization pending, polling again in " ++ Clock.text interval ++ "s")
        (sleep interval).mapFault nofun
        g.pollLoop codes sleep interval deadline limit

theorem holding_pollUntil {g : DeviceGrant τ} {codes : DeviceCodes} (hg : g.codes = some codes)
    (sleep : τ → Flow (World σ τ) Empty Unit) (interval deadline : τ) (limit : Nat) :
    Flow.holding g (pollUntil sleep interval deadline limit) =
      g.pollLoop codes sleep interval deadline limit := by
  induction limit with
  | zero => rfl
  | succ limit ih =>
    have hpoll : Flow.holding g poll = (g.pollWith codes : Flow (World σ τ) _ _) := by
      rw [holding_poll, hg]
    rw [pollUntil, pollLoop, ← hpoll]
    refine Flow.holding_bind fun s outcome g' t hs => ?_
    cases outcome with
    | some token => rfl
    | none =>
      -- a poll that brings nothing leaves what is held
      have hg' : g' = g := by
        rcases poll_cases hs with ⟨_, hsome, -⟩ | ⟨-, hsame⟩ | ⟨_, herror, -⟩
        · cases hsome
        · exact hsame
        · cases herror
      subst hg'
      simp only [Flow.holding_beside, ← ih]
      rw [Flow.bind_apply, Flow.bind_apply]
      simp only [Flow.now_apply]
      split
      · rfl
      · refine (congrFun (Flow.holding_beside g' _ _) t).trans ?_
        exact congrFun (congrArg _ (funext fun _ => Flow.holding_beside g' _ _)) t

theorem holding_waitWith (g : DeviceGrant τ) (sleep : τ → Flow (World σ τ) Empty Unit)
    (limit : Nat) :
    Flow.holding g (waitWith sleep limit) =
      match g.codes, g.startedAt with
      | some codes, some startedAt =>
        g.pollLoop codes sleep (Clock.ofSpan codes.interval)
          (Clock.add startedAt (Clock.ofSpan codes.expiresIn)) limit
      | _, _ => Flow.fail .notStarted := by
  unfold waitWith
  rw [Flow.holding_held]
  cases hg : g.codes with
  | none => rfl
  | some codes =>
    cases g.startedAt with
    | none => rfl
    | some startedAt => exact holding_pollUntil hg sleep _ _ limit

end DeviceGrant

end Bearer
