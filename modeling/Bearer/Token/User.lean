import Bearer.Endpoint.Validation
import Bearer.Token.Basic

/-!
# User tokens

A user token is made only of a token that the server has validated and that belongs to a user: who
the user is, what the token permits and how long it is good for come from the validation. It is
refreshed with its refresh token; its scopes and its user stay.

* `ofValidation?_eq_some_iff`: a validation without a user makes no user token.
* `refresh_idle`: without a refresh token nothing is sent.
-/
namespace Bearer.UserToken

variable {σ τ : Type}

/-- The token that was validated, assembled at a reading of the clock, if it belongs to a user. -/
def ofValidation? (v : Validation) (access : Option AccessToken) (refresh : Option RefreshToken)
    (secret : Option ClientSecret) (now : τ) : Option (UserToken τ) :=
  match v.login, v.userId with
  | some login, some userId =>
    some ⟨access, refresh, some v.clientId, secret, some login, some userId, v.scopes.getD [],
      ⟨v.expiresIn, now⟩⟩
  | _, _ => none

theorem ofValidation?_eq_some_iff {v : Validation} {access : Option AccessToken}
    {refresh : Option RefreshToken} {secret : Option ClientSecret} {now : τ} {t : UserToken τ} :
    ofValidation? v access refresh secret now = some t ↔
      v.login.isSome ∧ v.userId.isSome ∧ t.login = v.login ∧ t.userId = v.userId ∧
        t.accessToken = access ∧ t.refreshToken = refresh ∧ t.clientId = some v.clientId ∧
        t.clientSecret = secret ∧ t.scopes = v.scopes.getD [] ∧
        t.lifetime = ⟨v.expiresIn, now⟩ := by
  obtain ⟨a, r, c, s, l, u, ss, lt⟩ := t
  unfold ofValidation?
  split
  · rename_i login userId hl hu
    simp only [Option.some.injEq, UserToken.mk.injEq, hl, hu]
    constructor
    · rintro ⟨rfl, rfl, rfl, rfl, rfl, rfl, rfl, rfl⟩
      simp
    · rintro ⟨-, -, rfl, rfl, rfl, rfl, rfl, rfl, rfl, rfl⟩
      simp
  · rename_i hn
    simp only [reduceCtorEq, false_iff]
    rintro ⟨hl, hu, -⟩
    obtain ⟨login, hl⟩ := Option.isSome_iff_exists.1 hl
    obtain ⟨userId, hu⟩ := Option.isSome_iff_exists.1 hu
    exact hn _ _ hl hu

/-- The token with what a refresh brought. -/
def withRefreshed (t : UserToken τ) (r : Refreshed) (now : τ) : UserToken τ :=
  { t with
    accessToken := some r.accessToken
    refreshToken := r.refreshToken
    lifetime := ⟨some r.lifetime, now⟩ }

/-- The name of the user in the log. -/
def shownLogin (t : UserToken τ) : String :=
  t.login.getD "None"

/-- The user token of a validation; a fault if it belongs to no user. -/
def assemble (v : Validation) (access : Option AccessToken) (refresh : Option RefreshToken)
    (secret : Option ClientSecret) : Flow (World σ τ) ValidationFault (UserToken τ) := do
  match ofValidation? v access refresh secret (← Flow.now) with
  | some t => return t
  | none => Flow.fail .noLogin

variable [Http.Server σ]

/-- The token that someone already has, once it is validated. -/
def ofExisting (access : Option AccessToken) (refresh : Option RefreshToken)
    (secret : Option ClientSecret) : Flow (World σ τ) ValidationFault (UserToken τ) := do
  let v ← Endpoint.validate access
  assemble v access refresh secret

/-- The token that an answer brings, once it is validated. -/
def ofAnswer (answer : TokenAnswer) (secret : Option ClientSecret) :
    Flow (World σ τ) ValidationFault (UserToken τ) :=
  ofExisting (some answer.accessToken) answer.refreshToken secret

/-- Refreshes the token that is held. -/
def refresh : Flow (UserToken τ × World σ τ) RefreshFault Unit := do
  let t ← Flow.held
  match t.refreshToken with
  | none => Flow.fail .noRefreshToken
  | some r =>
    let answer ← (Endpoint.refresh (some r) t.clientId t.clientSecret).beside
    Flow.hold (t.withRefreshed answer (← Flow.now.beside))

theorem refresh_idle {s : UserToken τ × World σ τ} (h : s.1.refreshToken = none) :
    refresh s = (.error (.fault .noRefreshToken), s) := by
  unfold refresh
  rw [Flow.bind_ok (Flow.held_apply s)]
  simp [h]

end Bearer.UserToken
