import Bearer.Grant.Code
import Bearer.Grant.Implicit
import Bearer.Proofs.Flow.Exchanges
import Bearer.Proofs.Grant.DeviceAlone
import Bearer.Token.Use

/-!
# Operations

Everything that talks to the server, as one type, so that a property of all operations is one
statement. An operation is made of its inputs; a device flow and a token that is refreshed are among
them, since what they become afterwards is a matter of their own. Faults and results of all
operations are two types as well.

* `Sleeper.quiet`: sleeping between two polls sends nothing.
* `Operation.run`: what an operation does.
-/
namespace Bearer

/-- Readings as whole numbers of microseconds. -/
instance : Time.Clock Int where
  ofSpan := Time.Span.micros
  add a b := a + b
  isLater a b := b < a
  since? a b := Time.Span.ofMicros? (a - b)
  text n := toString n ++ "e-6"

/-! ## Faults and results -/

/-- Why an operation failed. -/
inductive OperationFault where
  | validation (f : ValidationFault)
  | revocation (f : RevocationFault)
  | refresh (f : RefreshFault)
  | credentials (f : CredentialsFault)
  | code (f : CodeFault)
  | redirect (f : ImplicitFault)
  | device (f : DeviceFault)
deriving DecidableEq

instance : Diagnosable OperationFault where
  diagnosis
    | .validation f => Diagnosable.diagnosis f
    | .revocation f => Diagnosable.diagnosis f
    | .refresh f => Diagnosable.diagnosis f
    | .credentials f => Diagnosable.diagnosis f
    | .code f => Diagnosable.diagnosis f
    | .redirect f => Diagnosable.diagnosis f
    | .device f => Diagnosable.diagnosis f

/-- What an operation brings. -/
inductive OperationResult (τ : Type) where
  /-- Nothing but that it succeeded. -/
  | done
  | validation (v : Validation)
  | refreshed (r : Refreshed)
  | token (t : Token τ)
  | codes (c : DeviceCodes)
  /-- The user has not answered yet. -/
  | pending
deriving DecidableEq

/-- What a poll brings. -/
def OperationResult.ofPoll {τ : Type} : Option (UserToken τ) → OperationResult τ
  | some t => .token (.user t)
  | none => .pending

/-! ## Flows -/

namespace Flow

variable {w ε δ α β : Type}

/-- A flow with its fault and its result seen as others. -/
def seenAs (f : Flow w ε α) (onFault : ε → δ) (onResult : α → β) : Flow w δ β := do
  return onResult (← f.mapFault onFault)

theorem seenAs_apply (f : Flow w ε α) (onFault : ε → δ) (onResult : α → β) (s : w) :
    f.seenAs onFault onResult s =
      (((f s).1.mapError (Failure.map onFault)).map onResult, (f s).2) := by
  unfold seenAs
  rw [bind_apply, mapFault_apply]
  rcases (f s).1 with e | a <;> rfl

theorem seenAs_ok {f : Flow w ε α} {onFault : ε → δ} {onResult : α → β} {s t : w} {b : β}
    (h : f.seenAs onFault onResult s = (.ok b, t)) : ∃ a, f s = (.ok a, t) ∧ onResult a = b := by
  rw [seenAs_apply] at h
  rcases hf : f s with ⟨e | a, v⟩ <;> rw [hf] at h <;> cases h
  exact ⟨a, rfl, rfl⟩

end Flow

/-- A way to sleep between two polls, which may break off. It sends nothing. -/
structure Sleeper (σ τ : Type) [Http.Server σ] where
  /-- Sleeps. -/
  sleep : τ → Flow (World σ τ) Empty Unit
  quiet : ∀ length w, World.Exchanged [] w (sleep length w).2

/-! ## Operations -/

/-- An operation on the server. -/
inductive Operation (σ τ : Type) [Http.Server σ] where
  | validate (access : Option AccessToken)
  | revoke (access : Option AccessToken) (client : Option ClientId)
  | refresh (token : Option RefreshToken) (client : Option ClientId) (secret : Option ClientSecret)
  | obtain (client : Option ClientId) (secret : Option ClientSecret) (scopes : List Scope)
  /-- An app token is made of a token that is there. -/
  | existingApp (access : Option AccessToken) (refresh : Option RefreshToken)
      (secret : Option ClientSecret)
  /-- A user token is made of a token that is there. -/
  | existingUser (access : Option AccessToken) (refresh : Option RefreshToken)
      (secret : Option ClientSecret)
  | exchangeCode (g : BrowserGrant) (secret : Option ClientSecret) (state : Option String)
      (code : String)
  | acceptToken (g : BrowserGrant) (r : ImplicitRedirect)
  | start (g : DeviceGrant τ)
  | poll (g : DeviceGrant τ)
  /-- A device flow is waited for, with so many polls at most. -/
  | wait (g : DeviceGrant τ) (sleeper : Sleeper σ τ) (limit : Nat)
  /-- A token is refreshed. -/
  | renew (t : Token τ)

namespace Operation

variable {σ τ : Type} [Http.Server σ]

/-- Does an operation. -/
def run [Time.Clock τ] : Operation σ τ → Flow (World σ τ) OperationFault (OperationResult τ)
  | .validate access => (Endpoint.validate access).seenAs .validation .validation
  | .revoke access client => (Endpoint.revoke access client).seenAs .revocation fun _ => .done
  | .refresh token client secret =>
    (Endpoint.refresh token client secret).seenAs .refresh .refreshed
  | .obtain client secret scopes =>
    (AppToken.obtain client secret scopes).seenAs .credentials fun t => .token (.app t)
  | .existingApp access spare secret =>
    (AppToken.ofExisting access spare secret).seenAs .validation fun t => .token (.app t)
  | .existingUser access spare secret =>
    (UserToken.ofExisting access spare secret).seenAs .validation fun t => .token (.user t)
  | .exchangeCode g secret state code =>
    (g.exchangeCode secret state code).seenAs .code fun t => .token (.user t)
  | .acceptToken g r => (g.acceptToken r).seenAs .redirect fun t => .token (.user t)
  | .start g => (Flow.holding g DeviceGrant.start).seenAs .device .codes
  | .poll g => (Flow.holding g DeviceGrant.poll).seenAs .device .ofPoll
  | .wait g sleeper limit =>
    (Flow.holding g (DeviceGrant.waitWith sleeper.sleep limit)).seenAs .device fun t =>
      .token (.user t)
  | .renew t => (Flow.holding t (Token.refresh >>= fun _ => Flow.held)).seenAs .refresh .token

end Operation

end Bearer
