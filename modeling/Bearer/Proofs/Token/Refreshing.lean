import Bearer.Http.Script
import Bearer.Proofs.Flow.Exchanges
import Bearer.Proofs.Token.Alone
import Mathlib.Control.Monad.Basic

/-!
# Tokens that are refreshed over and over

A refresh brings everything or nothing. If it fails, for whatever reason, the token is the one it
was; if it succeeds, one request was sent, and what is new about the token comes from its answer.
Who holds the token never changes. An app token without a refresh token asks for the scopes it has
and keeps them unless the answer names some, so it never loses its last scope.

* `refreshed_ok`, `refreshed_sends`: what a refresh that succeeds does, and what any refresh sends.
* `sameHolder_after`, `scopes_after`: what a run of refreshes leaves alone.
* `refresh_all_or_nothing`: all of it in every state of every run.
-/
namespace Bearer

open World

variable {σ τ : Type} [Http.Server σ]

/-! ## The endpoints -/

namespace Endpoint

variable {client : Option ClientId} {secret : Option ClientSecret} {w w' : World σ τ}

/-- What a refresh token is exchanged for is what the answer says, and it says for how long. -/
theorem refresh_ok {token : Option RefreshToken} {r : Refreshed}
    (h : refresh token client secret w = (.ok r, w')) :
    ∃ request answer, refreshRequest w.settings token client secret = .ok request ∧
      w.Brings request .token answer w' ∧ answer.accessToken = r.accessToken ∧
      answer.refreshToken = r.refreshToken ∧ answer.expiresIn = some r.lifetime := by
  obtain ⟨request, answer, v, hmade, hbrings, h⟩ := Flow.ask_ok h
  cases hspan : answer.expiresIn with
  | none =>
    rw [hspan] at h
    cases h
  | some span =>
    rw [hspan] at h
    cases h
    exact ⟨request, answer, hmade, hbrings.logged _, rfl, rfl, hspan⟩

theorem refresh_sends (token : Option RefreshToken) (client : Option ClientId)
    (secret : Option ClientSecret) (w : World σ τ) :
    ∃ rs, Exchanged rs w (refresh token client secret w).2 ∧
      (rs = [] ∨ ∃ request, refreshRequest w.settings token client secret = .ok request ∧
        rs = [w.client.prepare request]) := by
  refine Flow.ask_sends (fun answer v => ?_) w
  cases answer.expiresIn with
  | none => exact .refl v
  | some span => exact .logged v _

theorem credentials_ok {scopes : List Scope} {answer : TokenAnswer}
    (h : credentials client secret scopes w = (.ok answer, w')) :
    ∃ request, credentialsRequest w.settings client secret scopes = .ok request ∧
      w.Brings request .token answer w' := by
  obtain ⟨request, answer', v, hmade, hbrings, h⟩ := Flow.ask_ok h
  cases h
  exact ⟨request, hmade, hbrings.logged _⟩

theorem credentials_sends (client : Option ClientId) (secret : Option ClientSecret)
    (scopes : List Scope) (w : World σ τ) :
    ∃ rs, Exchanged rs w (credentials client secret scopes w).2 ∧
      (rs = [] ∨ ∃ request, credentialsRequest w.settings client secret scopes = .ok request ∧
        rs = [w.client.prepare request]) :=
  Flow.ask_sends (fun _ v => .logged v _) w

omit [Http.Server σ] in
/-- The request for a token names the scopes, with one space between. -/
theorem credentialsRequest_ok {settings : Answer.Loaded} {scopes : List Scope}
    {request : Http.Request} (h : credentialsRequest settings client secret scopes = .ok request) :
    ∃ s id key, settings = .ok s ∧ client = some ⟨id⟩ ∧ secret = some ⟨key⟩ ∧
      Http.Request.post s.tokenUrl [("client_id", id), ("client_secret", key),
        ("grant_type", "client_credentials"),
        ("scope", " ".intercalate (scopes.map (·.text)))] = .ok request := by
  rw [credentialsRequest, credentialsParams, Scope.join_eq] at h
  rcases settings with ps | s
  · cases h
  rcases client with - | ⟨⟨id⟩⟩
  · cases h
  rcases secret with - | ⟨⟨key⟩⟩
  · cases h
  have hpost : post s.tokenUrl _ = .ok request := h
  exact ⟨s, id, key, rfl, rfl, rfl, Flow.mapError_eq_ok_iff.1 hpost⟩

end Endpoint

/-! ## One refresh -/

namespace Token

/-- Two tokens of one type that belong to the same client and the same user. -/
structure SameHolder (t t' : Token τ) : Prop where
  typeName : t'.typeName = t.typeName
  clientId : t'.clientId = t.clientId
  clientSecret : t'.clientSecret = t.clientSecret
  login : t'.login = t.login
  userId : t'.userId = t.userId

/-- The request that a refresh of the token makes: its refresh token is exchanged, or a new token is
asked for, with the scopes of this one, if it is an app token without a refresh token. -/
def Asks (t : Token τ) (settings : Answer.Loaded) (request : Http.Request) : Prop :=
  match t.refreshToken, t with
  | some r, _ => Endpoint.refreshRequest settings (some r) t.clientId t.clientSecret = .ok request
  | none, .app _ =>
    ∃ s id key, settings = .ok s ∧ t.clientId = some ⟨id⟩ ∧ t.clientSecret = some ⟨key⟩ ∧
      Http.Request.post s.tokenUrl [("client_id", id), ("client_secret", key),
        ("grant_type", "client_credentials"),
        ("scope", " ".intercalate (t.scopes.map (·.text)))] = .ok request
  | none, .user _ => False

/-- The scopes of the token after a refresh: those that the answer names, if any, where a new token
was asked for. -/
def scopesAfter (t : Token τ) (answer : TokenAnswer) : List Scope :=
  if t.refreshToken = none ∧ answer.scopes.getD [] ≠ [] then answer.scopes.getD [] else t.scopes

/-- A refresh with success: one request is sent, and what is new comes from its answer. -/
structure Renewed (s s' : Token τ × World σ τ) (request : Http.Request) (answer : TokenAnswer) :
    Prop where
  asks : s.1.Asks s.2.settings request
  brings : s.2.BringsToken request answer s'.2
  accessToken : s'.1.accessToken = some answer.accessToken
  refreshToken : s'.1.refreshToken = answer.refreshToken
  lifetime : s'.1.lifetime = ⟨answer.expiresIn, s'.2.now⟩
  scopes : s'.1.scopes = s.1.scopesAfter answer
  holder : s.1.SameHolder s'.1

theorem SameHolder.refl (t : Token τ) : t.SameHolder t := ⟨rfl, rfl, rfl, rfl, rfl⟩

theorem SameHolder.trans {t t' t'' : Token τ} (h : t.SameHolder t') (h' : t'.SameHolder t'') :
    t.SameHolder t'' :=
  ⟨h'.typeName.trans h.typeName, h'.clientId.trans h.clientId,
    h'.clientSecret.trans h.clientSecret, h'.login.trans h.login, h'.userId.trans h.userId⟩

theorem asks_of_refreshToken {t : Token τ} {r : RefreshToken} (ht : t.refreshToken = some r)
    {settings : Answer.Loaded} {request : Http.Request}
    (h : Endpoint.refreshRequest settings (some r) t.clientId t.clientSecret = .ok request) :
    t.Asks settings request := by
  unfold Asks
  rw [ht]
  exact h

theorem asks_of_app {a : AppToken τ} (ha : a.refreshToken = none) {settings : Answer.Loaded}
    {request : Http.Request}
    (h : Endpoint.credentialsRequest settings a.clientId a.clientSecret a.scopes = .ok request) :
    (Token.app a).Asks settings request := by
  have hr : (Token.app a).refreshToken = none := ha
  unfold Asks
  rw [hr]
  exact Endpoint.credentialsRequest_ok h

theorem scopesAfter_of_some {t : Token τ} {r : RefreshToken} (ht : t.refreshToken = some r)
    (answer : TokenAnswer) : t.scopesAfter answer = t.scopes := by
  simp [scopesAfter, ht]

omit [Http.Server σ] in
theorem withRenewed_scopes {a : AppToken τ} (ha : a.refreshToken = none) (answer : TokenAnswer)
    (client : Option ClientId) (secret : Option ClientSecret) (now : τ) :
    (a.withRenewed (AppToken.ofAnswer answer client secret now)).scopes =
      (Token.app a).scopesAfter answer := by
  have hr : (Token.app a).refreshToken = none := ha
  simp only [AppToken.withRenewed, AppToken.ofAnswer, scopesAfter, hr, true_and]
  by_cases hnamed : answer.scopes.getD [] = []
  · simp [hnamed, scopes]
  · simp [hnamed]

/-- What a refresh token brings is the same for both types of token. -/
theorem renewed_of_refresh {t : Token τ} {r : RefreshToken} (ht : t.refreshToken = some r)
    {refreshed : Refreshed} {w w' : World σ τ}
    (h : Endpoint.refresh (some r) t.clientId t.clientSecret w = (.ok refreshed, w')) {t' : Token τ}
    (haccess : t'.accessToken = some refreshed.accessToken)
    (hrefresh : t'.refreshToken = refreshed.refreshToken)
    (hlife : t'.lifetime = ⟨some refreshed.lifetime, w'.now⟩) (hscopes : t'.scopes = t.scopes)
    (hholder : t.SameHolder t') : ∃ request answer, Renewed (t, w) (t', w') request answer := by
  obtain ⟨request, answer, hmade, hbrings, ha, hr, hspan⟩ := Endpoint.refresh_ok h
  exact ⟨request, answer,
    { asks := asks_of_refreshToken ht hmade
      brings := hbrings.token
      accessToken := by rw [haccess, ha]
      refreshToken := by rw [hrefresh, hr]
      lifetime := by rw [hlife, hspan]
      scopes := by rw [hscopes, scopesAfter_of_some ht]
      holder := hholder }⟩

/-- What a refresh of a token does that succeeds. -/
theorem refreshed_ok {t t' : Token τ} {w w' : World σ τ} (h : t.refreshed w = (.ok t', w')) :
    ∃ request answer, Renewed (t, w) (t', w') request answer := by
  cases t with
  | app a =>
    rcases Flow.bind_cases h with ⟨e, -, he⟩ | ⟨a', v, h, hpure⟩
    · cases he
    cases hpure
    unfold AppToken.refreshed at h
    cases hr : a.refreshToken with
    | some r =>
      simp only [hr] at h
      rcases Flow.bind_cases h with ⟨e, -, he⟩ | ⟨refreshed, v, hcall, hpure⟩
      · cases he
      cases hpure
      exact renewed_of_refresh (t := .app a) hr hcall rfl rfl rfl rfl
        ⟨rfl, rfl, rfl, rfl, rfl⟩
    | none =>
      simp only [hr] at h
      rcases Flow.bind_cases h with ⟨e, -, he⟩ | ⟨new, v, hobtain, hpure⟩
      · cases he
      cases hpure
      rcases Flow.bind_cases (Flow.mapFault_eq_ok_iff.1 hobtain) with
        ⟨e, -, he⟩ | ⟨answer, v, hcall, hpure⟩
      · cases he
      cases hpure
      obtain ⟨request, hmade, hbrings⟩ := Endpoint.credentials_ok hcall
      refine ⟨request, answer, asks_of_app hr hmade, hbrings.token, rfl, rfl, rfl, ?_,
        ⟨rfl, rfl, rfl, rfl, rfl⟩⟩
      exact withRenewed_scopes hr answer _ _ _
  | user u =>
    rcases Flow.bind_cases h with ⟨e, -, he⟩ | ⟨u', v, h, hpure⟩
    · cases he
    cases hpure
    unfold UserToken.refreshed at h
    cases hr : u.refreshToken with
    | some r =>
      simp only [hr] at h
      rcases Flow.bind_cases h with ⟨e, -, he⟩ | ⟨refreshed, v, hcall, hpure⟩
      · cases he
      cases hpure
      exact renewed_of_refresh (t := .user u) hr hcall rfl rfl rfl rfl
        ⟨rfl, rfl, rfl, rfl, rfl⟩
    | none =>
      simp only [hr] at h
      cases h

/-- What the exchange of a refresh token sends is the same for both types of token. -/
theorem sends_of_refresh {α : Type} {t : Token τ} {r : RefreshToken} (ht : t.refreshToken = some r)
    {rest : Refreshed → Flow (World σ τ) RefreshFault α}
    (hrest : ∀ a v, Exchanged [] v (rest a v).2) (w : World σ τ) :
    ∃ rs, Exchanged rs w ((Endpoint.refresh (some r) t.clientId t.clientSecret >>= rest) w).2 ∧
      (rs = [] ∨ ∃ request, t.Asks w.settings request ∧ rs = [w.client.prepare request]) := by
  obtain ⟨rs, hex, hrs⟩ := Endpoint.refresh_sends (some r) t.clientId t.clientSecret w
  refine ⟨rs, Flow.bind_exchanged hex hrest, hrs.imp_right ?_⟩
  rintro ⟨request, hmade, hrs⟩
  exact ⟨request, asks_of_refreshToken ht hmade, hrs⟩

/-- What a refresh of a token sends, whatever comes of it. -/
theorem refreshed_sends (t : Token τ) (w : World σ τ) :
    ∃ rs, Exchanged rs w (t.refreshed w).2 ∧
      (rs = [] ∨ ∃ request, t.Asks w.settings request ∧ rs = [w.client.prepare request]) := by
  cases t with
  | app a =>
    suffices hsends : ∃ rs, Exchanged rs w (a.refreshed w).2 ∧ (rs = [] ∨ ∃ request,
        (Token.app a).Asks w.settings request ∧ rs = [w.client.prepare request]) by
      obtain ⟨rs, hex, hrs⟩ := hsends
      exact ⟨rs, Flow.bind_exchanged hex fun _ v => .refl v, hrs⟩
    unfold AppToken.refreshed
    cases hr : a.refreshToken with
    | some r => exact sends_of_refresh (t := .app a) hr (fun _ v => .refl v) w
    | none =>
      obtain ⟨rs, hex, hrs⟩ := Endpoint.credentials_sends a.clientId a.clientSecret a.scopes w
      refine ⟨rs, Flow.bind_exchanged ?_ fun _ v => .refl v, hrs.imp_right ?_⟩
      · rw [Flow.mapFault_apply]
        exact Flow.bind_exchanged hex fun _ v => .refl v
      · rintro ⟨request, hmade, hrs⟩
        exact ⟨request, asks_of_app hr hmade, hrs⟩
  | user u =>
    suffices hsends : ∃ rs, Exchanged rs w (u.refreshed w).2 ∧ (rs = [] ∨ ∃ request,
        (Token.user u).Asks w.settings request ∧ rs = [w.client.prepare request]) by
      obtain ⟨rs, hex, hrs⟩ := hsends
      exact ⟨rs, Flow.bind_exchanged hex fun _ v => .refl v, hrs⟩
    unfold UserToken.refreshed
    cases hr : u.refreshToken with
    | some r => exact sends_of_refresh (t := .user u) hr (fun _ v => .refl v) w
    | none => exact ⟨[], .refl w, .inl rfl⟩

/-- A user token without a refresh token is not refreshed, and nothing is done at all. -/
theorem refresh_without {u : UserToken τ} (hu : u.refreshToken = none) (w : World σ τ) :
    refresh (.user u, w) = (.error (.fault .noRefreshToken), (.user u, w)) := by
  have hidle : UserToken.refresh (u, w) = (.error (.fault .noRefreshToken), (u, w)) :=
    UserToken.refresh_idle hu
  unfold refresh
  rw [Flow.bind_ok (Flow.held_apply (Token.user u, w))]
  simp only [Flow.within_apply, hidle]

/-! ## Runs -/

end Token

/-- What may happen to a token that is kept. -/
inductive TokenStep (σ τ : Type) where
  /-- It is refreshed. -/
  | refresh
  /-- The world changes without it: the clock goes on, the token is used, other settings load. -/
  | elsewhere (change : World σ τ → World σ τ)

/-- Takes a step. -/
def TokenStep.run (s : Token τ × World σ τ) : TokenStep σ τ → Token τ × World σ τ
  | .refresh => (Token.refresh s).2
  | .elsewhere change => (s.1, change s.2)

namespace Token

/-- A token in its world after several steps. -/
def after (s : Token τ × World σ τ) (steps : List (TokenStep σ τ)) : Token τ × World σ τ :=
  steps.foldl TokenStep.run s

/-- All that a step may do to the token. -/
theorem run_cases (s : Token τ × World σ τ) (step : TokenStep σ τ) :
    (step.run s).1 = s.1 ∨ ∃ request answer, Renewed s (step.run s) request answer := by
  cases step with
  | elsewhere change => exact .inl rfl
  | refresh =>
    show (refresh s).2.1 = s.1 ∨ ∃ request answer, Renewed s (refresh s).2 request answer
    rcases h : refresh s with ⟨e | u, s'⟩
    · exact .inl (refresh_error h).1
    · exact .inr (refreshed_ok (refresh_ok h))

theorem Renewed.scopes_ne_nil {s s' : Token τ × World σ τ} {request : Http.Request}
    {answer : TokenAnswer} (h : Renewed s s' request answer) (hs : s.1.scopes ≠ []) :
    s'.1.scopes ≠ [] := by
  rw [h.scopes, scopesAfter]
  split
  · rename_i hnamed
    exact hnamed.2
  · exact hs

/-- Only app tokens are got anew, so the scopes of a user token stay. -/
theorem Renewed.scopes_of_user {s s' : Token τ × World σ τ} {request : Http.Request}
    {answer : TokenAnswer} (h : Renewed s s' request answer) {u : UserToken τ}
    (hs : s.1 = .user u) : s'.1.scopes = s.1.scopes := by
  rw [h.scopes, scopesAfter, if_neg]
  rintro ⟨hnone, -⟩
  have hasks := h.asks
  unfold Asks at hasks
  rw [hnone, hs] at hasks
  exact hasks

omit [Http.Server σ] in
theorem SameHolder.user {t t' : Token τ} (h : t.SameHolder t') {u : UserToken τ} (ht : t = .user u) :
    ∃ u', t' = .user u' := by
  cases t' with
  | user u' => exact ⟨u', rfl⟩
  | app a =>
    rw [ht] at h
    exact absurd h.typeName (by simp [Token.typeName])

/-- What a step leaves of the scopes. -/
theorem run_scopes (s : Token τ × World σ τ) (step : TokenStep σ τ) :
    (∀ u, s.1 = .user u → (step.run s).1.scopes = s.1.scopes) ∧
      (s.1.scopes ≠ [] → (step.run s).1.scopes ≠ []) := by
  rcases run_cases s step with hsame | ⟨request, answer, h⟩
  · rw [hsame]
    exact ⟨fun _ _ => rfl, id⟩
  · exact ⟨fun _ hu => h.scopes_of_user hu, h.scopes_ne_nil⟩

theorem run_sameHolder (s : Token τ × World σ τ) (step : TokenStep σ τ) :
    s.1.SameHolder (step.run s).1 := by
  rcases run_cases s step with hsame | ⟨request, answer, h⟩
  · rw [hsame]
    exact .refl s.1
  · exact h.holder

/-- The same client and the same user hold the token after any run. -/
theorem sameHolder_after (s : Token τ × World σ τ) (steps : List (TokenStep σ τ)) :
    s.1.SameHolder (after s steps).1 := by
  induction steps generalizing s with
  | nil => exact .refl s.1
  | cons step steps ih => exact (run_sameHolder s step).trans (ih (step.run s))

/-- A run leaves the scopes of a user token alone, and takes none without giving others. -/
theorem scopes_after (s : Token τ × World σ τ) (steps : List (TokenStep σ τ)) :
    (∀ u, s.1 = .user u → (after s steps).1.scopes = s.1.scopes) ∧
      (s.1.scopes ≠ [] → (after s steps).1.scopes ≠ []) := by
  induction steps generalizing s with
  | nil => exact ⟨fun _ _ => rfl, id⟩
  | cons step steps ih =>
    obtain ⟨huser, hsome⟩ := run_scopes s step
    obtain ⟨huser', hsome'⟩ := ih (step.run s)
    refine ⟨fun u hu => ?_, fun hs => hsome' (hsome hs)⟩
    obtain ⟨u', hu'⟩ := (run_sameHolder s step).user hu
    exact (huser' u' hu').trans (huser u hu)

/-- What holds of a token and its world whatever a refresh of it comes to. -/
structure RefreshesWhole (s : Token τ × World σ τ) : Prop where
  /-- A failure leaves every part of the token as it was. -/
  failure : ∀ e, (refresh s).1 = .error e → (refresh s).2.1 = s.1
  /-- A success takes all that is new from one answer to one request. -/
  success : (refresh s).1 = .ok () → ∃ request answer, Renewed s (refresh s).2 request answer
  /-- Nothing but the request of the refresh is sent, and that once. -/
  sends : ∃ rs, Exchanged rs s.2 (refresh s).2.2 ∧
    (rs = [] ∨ ∃ request, s.1.Asks s.2.settings request ∧ rs = [s.2.client.prepare request])
  /-- A user token without a refresh token is not refreshed, and nothing is sent. -/
  idle : ∀ u, s.1 = .user u → u.refreshToken = none →
    refresh s = (.error (.fault .noRefreshToken), s)

theorem refreshesWhole (s : Token τ × World σ τ) : RefreshesWhole s where
  failure e he := (refresh_error (Prod.ext he rfl)).1
  success hok := refreshed_ok (refresh_ok (Prod.ext hok rfl))
  sends := by
    rw [refresh_world]
    exact refreshed_sends s.1 s.2
  idle u hu hnone := by
    obtain ⟨t, w⟩ := s
    cases hu
    exact refresh_without hnone w

/-- Refreshes are all or nothing in every state that a token gets to, whatever the server answers
and whatever happens meanwhile; the holder stays, the scopes of a user token stay, and scopes never
go without others in their place. -/
theorem refresh_all_or_nothing (t : Token τ) (w : World σ τ) (steps : List (TokenStep σ τ)) :
    let s := after (t, w) steps
    RefreshesWhole s ∧ t.SameHolder s.1 ∧ (∀ u, t = .user u → s.1.scopes = t.scopes) ∧
      (t.scopes ≠ [] → s.1.scopes ≠ []) :=
  ⟨refreshesWhole _, sameHolder_after (t, w) steps, scopes_after (t, w) steps⟩

/-- A token is got anew without a word on its scopes, so it keeps them. -/
theorem refresh_all_or_nothing_anew :
    let body := Text.Utf8.encode "\x7b\x22access_token\x22:\x22new\x22\x7d".toList
    let t : Token Nat :=
      .app ⟨some ⟨"old"⟩, none, some ⟨"cid"⟩, some ⟨"key"⟩, [⟨"bits:read"⟩], ⟨none, 0⟩⟩
    let server : Http.Script := ⟨[("/oauth2/token", [.answer ⟨200, [], body⟩])]⟩
    let w : World Http.Script Nat :=
      { server := server, client := .bare, settings := .ok {}, now := 7 }
    (refresh (t, w)).1 = .ok () ∧
      (refresh (t, w)).2.1 =
        .app ⟨some ⟨"new"⟩, none, some ⟨"cid"⟩, some ⟨"key"⟩, [⟨"bits:read"⟩], ⟨none, 7⟩⟩ ∧
      (∃ request answer, Renewed (t, w) (refresh (t, w)).2 request answer) ∧
      (after (t, w) [.refresh]).1.scopes ≠ [] := by
  intro body t server w
  have hok : (refresh (t, w)).1 = .ok () := by decide +kernel
  have hnew : (refresh (t, w)).2.1 =
      .app ⟨some ⟨"new"⟩, none, some ⟨"cid"⟩, some ⟨"key"⟩, [⟨"bits:read"⟩], ⟨none, 7⟩⟩ := by
    decide +kernel
  have hscopes : t.scopes ≠ [] := List.cons_ne_nil _ _
  exact ⟨hok, hnew, (refresh_all_or_nothing t w []).1.success hok,
    (refresh_all_or_nothing t w [.refresh]).2.2.2 hscopes⟩

end Token

end Bearer
