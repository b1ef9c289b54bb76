import Bearer.Proofs.Flow.Keeping
import Mathlib.Order.Basic

/-!
# The clock in a flow

A flow does not put the clock back. Only requests take time, and only as much as the clock lets pass
until they are answered; so on a clock that is not put back while a request is answered, nothing
that is done with a token ends before it began, whether it succeeds or not.

* `lasts_onward`: that the clock goes on lasts through whatever a flow does.
* `Token.goesOn_refreshed`: a refresh of either type of token.
-/
namespace Bearer

variable {σ τ ε α : Type} [Preorder τ]

namespace World

/-- The clock is not put back while a request is answered. -/
def IsSteady (w : World σ τ) : Prop :=
  ∀ n t, t ≤ w.answeredAt n t

/-- From `w` to `w'` the clock is not put back, and it goes on as it did. -/
structure Onward (w w' : World σ τ) : Prop where
  now : w.now ≤ w'.now
  answeredAt : w'.answeredAt = w.answeredAt

variable {u v w : World σ τ}

theorem Onward.refl (w : World σ τ) : Onward w w := ⟨le_refl _, rfl⟩

theorem Onward.trans (h : Onward u v) (h' : Onward v w) : Onward u w :=
  ⟨h.now.trans h'.now, h'.answeredAt.trans h.answeredAt⟩

theorem Onward.isSteady (h : Onward u v) (hu : u.IsSteady) : v.IsSteady := by
  unfold IsSteady
  rw [h.answeredAt]
  exact hu

/-- A steady clock goes on. -/
theorem lasts_onward : Lasts fun w w' : World σ τ => w.IsSteady → w.Onward w' where
  refl w _ := .refl w
  trans h h' hu := (h hu).trans (h' ((h hu).isSteady hu))
  logged _ _ _ := ⟨le_refl _, rfl⟩
  answered _ _ _ hw := ⟨hw _ _, rfl⟩

end World

namespace Flow

/-- On a steady clock the flow does not end before it began. -/
def GoesOn (f : Flow (World σ τ) ε α) : Prop :=
  ∀ w : World σ τ, w.IsSteady → w.Onward (f w).2

end Flow

open Bearer.Flow World

theorem Token.goesOn_ensure (t : Token τ) (r : Requirement) :
    GoesOn (t.ensure r : Flow (World σ τ) MissingScopesFault Unit) :=
  t.keeps_ensure lasts_onward r

variable [Http.Server σ]

theorem Endpoint.goesOn_validate (access : Option AccessToken) :
    GoesOn (validate access : Flow (World σ τ) ValidationFault Validation) :=
  keeps_validate lasts_onward access

theorem Endpoint.goesOn_revoke (access : Option AccessToken) (client : Option ClientId) :
    GoesOn (revoke access client : Flow (World σ τ) RevocationFault Unit) :=
  keeps_revoke lasts_onward access client

theorem Token.goesOn_refreshed (t : Token τ) :
    GoesOn (t.refreshed : Flow (World σ τ) RefreshFault (Token τ)) :=
  t.keeps_refreshed lasts_onward

end Bearer
