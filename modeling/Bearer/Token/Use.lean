import Bearer.Endpoint.Revocation
import Bearer.Requirement.Display
import Bearer.Token.App
import Bearer.Token.User

/-!
# Using tokens

What can be done with a token of either type: refresh it, validate it, revoke it, and compare the
scopes it holds with a requirement. A token that falls short of a requirement is told what it lacks.

* `ensure_apply`: a token passes exactly when it lacks nothing.
-/
namespace Bearer

/-- A token that lacks scopes. -/
structure MissingScopesFault where
  /-- What it lacks. -/
  missing : Requirement
deriving DecidableEq

instance : Diagnosable MissingScopesFault where
  diagnosis f := ⟨.missingScopes, "token is missing scopes: " ++ f.missing.display, []⟩

namespace Token

variable {σ τ : Type}

/-- The part of a requirement that the token does not meet. -/
def missing (t : Token τ) (r : Requirement) : Option Requirement :=
  r.missing t.scopes

/-- Fails if the token does not meet a requirement. -/
def ensure (t : Token τ) (r : Requirement) : Flow (World σ τ) MissingScopesFault Unit := do
  match t.missing r with
  | none => return
  | some lack =>
    Flow.note .warning "tokens.base"
      ("Token for " ++ t.ownerName ++ " is missing scopes: " ++ lack.display)
    Flow.fail ⟨lack⟩

theorem ensure_apply (t : Token τ) (r : Requirement) (w : World σ τ) :
    ((t.ensure r : Flow (World σ τ) MissingScopesFault Unit) w).1 =
      match r.missing t.scopes with
      | none => .ok ()
      | some lack => .error (.fault ⟨lack⟩) := by
  unfold ensure missing
  split <;> rename_i h <;> rw [h] <;> rfl

variable [Http.Server σ]

/-- Asks the server what it knows of the token. -/
def validate (t : Token τ) : Flow (World σ τ) ValidationFault Validation :=
  Endpoint.validate t.accessToken

/-- Gives the token up. -/
def revoke (t : Token τ) : Flow (World σ τ) RevocationFault Unit :=
  Endpoint.revoke t.accessToken t.clientId

/-- Refreshes the token that is held. -/
def refresh : Flow (Token τ × World σ τ) RefreshFault Unit := do
  match ← Flow.held with
  | .app t => AppToken.refresh.within .app t
  | .user t => UserToken.refresh.within .user t

end Token

end Bearer
