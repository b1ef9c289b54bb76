import Bearer.Proofs.Flow.Cases
import Bearer.Proofs.Flow.Holding
import Bearer.Token.Use

/-!
# Refreshes seen from the world

A refresh acts on the world as a flow that knows the token and gives the token that it becomes. The
token that is held is exchanged for that one if the flow succeeds, and stays as it was if the flow
fails, whatever was done to the world by then.

* `Token.refresh_cases`: the two ways in which a refresh ends.
* `Token.holding_refresh`: the refresh as a flow on the world.
-/
namespace Bearer

variable {σ τ : Type} [Http.Server σ]

/-! ## App tokens -/

namespace AppToken

/-- The token after a refresh. -/
def refreshed (t : AppToken τ) : Flow (World σ τ) RefreshFault (AppToken τ) := do
  match t.refreshToken with
  | some r =>
    let answer ← Endpoint.refresh (some r) t.clientId t.clientSecret
    return t.withRefreshed answer (← Flow.now)
  | none =>
    let new ← (obtain t.clientId t.clientSecret t.scopes).mapFault .renewal
    return t.withRenewed new

theorem refresh_cases {s s' : AppToken τ × World σ τ} {r : Except (Failure RefreshFault) Unit}
    (h : refresh s = (r, s')) :
    (∃ e, r = .error e ∧ s'.1 = s.1 ∧ s.1.refreshed s.2 = (.error e, s'.2)) ∨
      (r = .ok () ∧ s.1.refreshed s.2 = (.ok s'.1, s'.2)) := by
  unfold refresh at h
  rw [Flow.bind_ok (Flow.held_apply s)] at h
  unfold refreshed
  cases hr : s.1.refreshToken with
  | some spare =>
    simp only [hr] at h ⊢
    rcases Flow.beside_cases h with ⟨e, rfl, hsame, hasked⟩ | ⟨answer, w, hasked, h⟩
    · exact .inl ⟨e, rfl, hsame, Flow.bind_error hasked⟩
    · cases h
      exact .inr ⟨rfl, Flow.bind_ok hasked⟩
  | none =>
    simp only [hr] at h ⊢
    rcases Flow.beside_cases h with ⟨e, rfl, hsame, hgot⟩ | ⟨new, w, hgot, h⟩
    · exact .inl ⟨e, rfl, hsame, Flow.bind_error hgot⟩
    · cases h
      exact .inr ⟨rfl, Flow.bind_ok hgot⟩

end AppToken

/-! ## User tokens -/

namespace UserToken

/-- The token after a refresh. -/
def refreshed (t : UserToken τ) : Flow (World σ τ) RefreshFault (UserToken τ) := do
  match t.refreshToken with
  | none => Flow.fail .noRefreshToken
  | some r =>
    let answer ← Endpoint.refresh (some r) t.clientId t.clientSecret
    return t.withRefreshed answer (← Flow.now)

theorem refresh_cases {s s' : UserToken τ × World σ τ} {r : Except (Failure RefreshFault) Unit}
    (h : refresh s = (r, s')) :
    (∃ e, r = .error e ∧ s'.1 = s.1 ∧ s.1.refreshed s.2 = (.error e, s'.2)) ∨
      (r = .ok () ∧ s.1.refreshed s.2 = (.ok s'.1, s'.2)) := by
  cases hr : s.1.refreshToken with
  | none =>
    rw [refresh_idle hr] at h
    cases h
    exact .inl ⟨_, rfl, rfl, by rw [refreshed, hr]; rfl⟩
  | some spare =>
    unfold refresh at h
    rw [Flow.bind_ok (Flow.held_apply s)] at h
    unfold refreshed
    simp only [hr] at h ⊢
    rcases Flow.beside_cases h with ⟨e, rfl, hsame, hasked⟩ | ⟨answer, w, hasked, h⟩
    · exact .inl ⟨e, rfl, hsame, Flow.bind_error hasked⟩
    · cases h
      exact .inr ⟨rfl, Flow.bind_ok hasked⟩

end UserToken

/-! ## Tokens of either type -/

namespace Token

/-- The token after a refresh. -/
def refreshed : Token τ → Flow (World σ τ) RefreshFault (Token τ)
  | .app t => return .app (← t.refreshed)
  | .user t => return .user (← t.refreshed)

/-- A refresh fails and leaves the token as it was, or succeeds and puts another in its place. -/
theorem refresh_cases {s s' : Token τ × World σ τ} {r : Except (Failure RefreshFault) Unit}
    (h : refresh s = (r, s')) :
    (∃ e, r = .error e ∧ s'.1 = s.1 ∧ s.1.refreshed s.2 = (.error e, s'.2)) ∨
      (r = .ok () ∧ s.1.refreshed s.2 = (.ok s'.1, s'.2)) := by
  obtain ⟨t, w⟩ := s
  unfold refresh at h
  rw [Flow.bind_ok (Flow.held_apply (t, w))] at h
  cases t with
  | app t =>
    simp only [Flow.within_apply] at h
    cases h
    rcases AppToken.refresh_cases (s := (t, w)) rfl with ⟨e, hr, hsame, hdone⟩ | ⟨hr, hdone⟩
    · exact .inl ⟨e, hr, congrArg Token.app hsame, Flow.bind_error hdone⟩
    · exact .inr ⟨hr, Flow.bind_ok hdone⟩
  | user t =>
    simp only [Flow.within_apply] at h
    cases h
    rcases UserToken.refresh_cases (s := (t, w)) rfl with ⟨e, hr, hsame, hdone⟩ | ⟨hr, hdone⟩
    · exact .inl ⟨e, hr, congrArg Token.user hsame, Flow.bind_error hdone⟩
    · exact .inr ⟨hr, Flow.bind_ok hdone⟩

variable {s s' : Token τ × World σ τ}

theorem refresh_error {e : Failure RefreshFault} (h : refresh s = (.error e, s')) :
    s'.1 = s.1 ∧ s.1.refreshed s.2 = (.error e, s'.2) := by
  rcases refresh_cases h with ⟨_, he, hdone⟩ | ⟨hok, -⟩
  · cases he
    exact hdone
  · cases hok

theorem refresh_ok (h : refresh s = (.ok (), s')) : s.1.refreshed s.2 = (.ok s'.1, s'.2) := by
  rcases refresh_cases h with ⟨_, he, -⟩ | ⟨-, hdone⟩
  · cases he
  · exact hdone

/-- What a refresh does to the world. -/
theorem refresh_world (s : Token τ × World σ τ) : (refresh s).2.2 = (s.1.refreshed s.2).2 := by
  rcases h : refresh s with ⟨r, s'⟩
  rcases refresh_cases h with ⟨e, -, -, hdone⟩ | ⟨-, hdone⟩
  · rw [hdone]
  · rw [hdone]

/-- Seen from the world, a refresh is the flow that gives the token that it leaves. -/
theorem holding_refresh (t : Token τ) :
    Flow.holding t (refresh >>= fun _ => Flow.held) =
      (t.refreshed : Flow (World σ τ) RefreshFault (Token τ)) := by
  funext w
  rcases h : refresh (t, w) with ⟨e | ⟨⟩, s'⟩
  · rw [Flow.holding, Flow.bind_error h, (refresh_error h).2]
  · rw [Flow.holding, Flow.bind_ok h, refresh_ok h]
    rfl

end Token

end Bearer
