import Bearer.Http.Script
import Bearer.Proofs.Operation.Basic
import Bearer.Proofs.Secrecy.Grants
import Mathlib.Control.Monad.Basic

/-!
# Operations keep secrets

Two runs of an operation that differ in secrets alone cannot be told apart by what is shown of them:
both fail, with the same failure, or both succeed, with results that are the same in writing, and
both have written the same log. This holds wherever the endpoints are, as long as no URL gets too
long, and for every server that goes by neither the query nor the values of the header fields.

* `agree_run`: an operation with other secrets does alike.
* `keeps_secrets`: what can be seen of it.
-/
namespace Bearer

open Credential (SameButText)

variable {σ τ : Type}

/-! ## Results -/

/-- Results that differ in secrets alone. -/
inductive OperationResult.SameButSecrets : OperationResult τ → OperationResult τ → Prop
  | same (r : OperationResult τ) : SameButSecrets r r
  | token {t t' : Token τ} (h : t.SameButSecrets t') : SameButSecrets (.token t) (.token t')

/-- The token that an operation brought in writing, if it brought one. -/
def OperationResult.describeToken (rest : Option Time.Span) : OperationResult τ → Option String
  | .token t => some (t.describe rest)
  | _ => none

theorem OperationResult.SameButSecrets.describeToken {a b : OperationResult τ}
    (h : a.SameButSecrets b) (rest : Option Time.Span) :
    a.describeToken rest = b.describeToken rest := by
  cases h with
  | same => rfl
  | token h => exact congrArg some (h.describe rest)

/-! ## Worlds -/

theorem Http.Request.LooksLike.refl (r : Http.Request) : r.LooksLike r :=
  ⟨rfl, .same, rfl, rfl⟩

theorem World.LooksLike.refl (w : World σ τ) : w.LooksLike w :=
  ⟨rfl, rfl, rfl, rfl, List.forall₂_same.2 fun r _ => .refl r, rfl, rfl, rfl⟩

namespace Flow

/-- A run that made no URL that is too long: such a URL would have broken it off. -/
def StaysShort {w ε α : Type} (run : Except (Failure ε) α × w) : Prop :=
  run.1 ≠ .error (.escape (.request (.url .tooLong)))

theorem Agree.seenAs {ε δ α α' β β' : Type} {R : α → α' → Prop} {S : β → β' → Prop}
    {f : Flow (World σ τ) ε α} {f' : Flow (World σ τ) ε α'} (h : Agree R f f') (onFault : ε → δ)
    {onResult : α → β} {onResult' : α' → β'} (hr : ∀ a b, R a b → S (onResult a) (onResult' b)) :
    Agree S (f.seenAs onFault onResult) (f'.seenAs onFault onResult') :=
  (h.mapFault onFault).bind fun a b hab => agree_pure (hr a b hab)

end Flow

/-! ## Operations -/

namespace Operation

variable [Http.Server σ]

/-- Operations that differ in their secrets alone: in client secrets, access tokens, refresh tokens,
codes, and CSRF tokens with the states that come back for them. -/
inductive SameButSecrets : Operation σ τ → Operation σ τ → Prop
  | validate {a a' : Option AccessToken} (h : SameButText a a') :
      SameButSecrets (.validate a) (.validate a')
  | revoke {a a' : Option AccessToken} (h : SameButText a a') (client : Option ClientId) :
      SameButSecrets (.revoke a client) (.revoke a' client)
  | refresh {t t' : Option RefreshToken} (ht : SameButText t t') (client : Option ClientId)
      {s s' : Option ClientSecret} (hs : SameButText s s') :
      SameButSecrets (.refresh t client s) (.refresh t' client s')
  | obtain (client : Option ClientId) {s s' : Option ClientSecret} (hs : SameButText s s')
      (scopes : List Scope) : SameButSecrets (.obtain client s scopes) (.obtain client s' scopes)
  | existingApp {a a' : Option AccessToken} (ha : SameButText a a') {t t' : Option RefreshToken}
      (ht : SameButText t t') {s s' : Option ClientSecret} (hs : SameButText s s') :
      SameButSecrets (.existingApp a t s) (.existingApp a' t' s')
  | existingUser {a a' : Option AccessToken} (ha : SameButText a a') {t t' : Option RefreshToken}
      (ht : SameButText t t') {s s' : Option ClientSecret} (hs : SameButText s s') :
      SameButSecrets (.existingUser a t s) (.existingUser a' t' s')
  | exchangeCode {g g' : BrowserGrant} (hg : g.SameButCsrf g') {s s' : Option ClientSecret}
      (hs : SameButText s s') {state state' : Option String}
      (hstate : g.checkState state = g'.checkState state') (code code' : String) :
      SameButSecrets (.exchangeCode g s state code) (.exchangeCode g' s' state' code')
  | acceptToken {g g' : BrowserGrant} {r r' : ImplicitRedirect} (hr : r.SameButSecrets r')
      (hstate : g.isAnsweredBy r = g'.isAnsweredBy r') :
      SameButSecrets (.acceptToken g r) (.acceptToken g' r')
  | start {g g' : DeviceGrant τ} (hg : g.SameButSecrets g') :
      SameButSecrets (.start g) (.start g')
  | poll {g g' : DeviceGrant τ} (hg : g.SameButSecrets g') : SameButSecrets (.poll g) (.poll g')
  /-- Sleeping does not go by what was sent either. -/
  | wait {g g' : DeviceGrant τ} (hg : g.SameButSecrets g') (sleeper : Sleeper σ τ)
      (hsleeper : ∀ length, Flow.Agree Eq (sleeper.sleep length) (sleeper.sleep length))
      (limit : Nat) : SameButSecrets (.wait g sleeper limit) (.wait g' sleeper limit)
  | renew {t t' : Token τ} (ht : t.SameButSecrets t') : SameButSecrets (.renew t) (.renew t')

open Bearer.Flow

variable [Time.Clock τ] {op op' : Operation σ τ}

/-- Operations that differ in their secrets alone do alike. -/
theorem agree_run (hblind : Http.Server.IsBlind σ) (h : op.SameButSecrets op') :
    Agree OperationResult.SameButSecrets op.run op'.run := by
  have htoken : ∀ {a b : UserToken τ}, a.SameButSecrets b →
      OperationResult.SameButSecrets (.token (.user a)) (.token (.user b)) :=
    fun h => .token (.user h)
  have hsame : ∀ {α : Type} (onResult : α → OperationResult τ) (a b : α), a = b →
      OperationResult.SameButSecrets (onResult a) (onResult b) := by
    rintro α onResult a _ rfl
    exact .same _
  cases h with
  | validate h => exact (Endpoint.agree_validate hblind h).seenAs _ (hsame _)
  | revoke h client => exact (Endpoint.agree_revoke hblind h client).seenAs _ (hsame _)
  | refresh ht client hs => exact (Endpoint.agree_refresh hblind ht client _ _).seenAs _ (hsame _)
  | obtain client hs scopes =>
    exact (AppToken.agree_obtain hblind hs client scopes).seenAs _ fun _ _ h => .token (.app h)
  | existingApp ha ht hs =>
    exact (AppToken.agree_ofExisting hblind ha ht hs).seenAs _ fun _ _ h => .token (.app h)
  | existingUser ha ht hs =>
    exact (UserToken.agree_ofExisting hblind ha ht hs).seenAs _ fun _ _ h => htoken h
  | exchangeCode hg hs hstate code code' =>
    exact (BrowserGrant.agree_exchangeCode hblind hg hs hstate code code').seenAs _ fun _ _ h =>
      htoken h
  | acceptToken hr hstate =>
    exact (BrowserGrant.agree_acceptToken hblind hr hstate).seenAs _ fun _ _ h => htoken h
  | start hg =>
    refine Agree.seenAs (R := Eq) ?_ _ (hsame _)
    rw [DeviceGrant.holding_start, DeviceGrant.holding_start, hg.codes]
    split
    · exact agree_pure rfl
    · exact DeviceGrant.agree_askCodes hblind hg
  | poll hg =>
    refine Agree.seenAs (R := Option.Rel UserToken.SameButSecrets) ?_ _ fun a b hab => ?_
    · rw [DeviceGrant.holding_poll, DeviceGrant.holding_poll, hg.codes]
      split
      · exact agree_fail _
      · exact DeviceGrant.agree_pollWith hblind hg _
    · cases hab with
      | some h => exact htoken h
      | none => exact .same _
  | wait hg sleeper hsleeper limit =>
    refine Agree.seenAs (R := UserToken.SameButSecrets) ?_ _ fun _ _ h => htoken h
    rw [DeviceGrant.holding_waitWith, DeviceGrant.holding_waitWith, hg.codes, hg.startedAt]
    split
    · exact DeviceGrant.agree_pollLoop hblind hg _ hsleeper _ _ limit
    · exact agree_fail _
  | renew ht =>
    rw [run, run, Token.holding_refresh, Token.holding_refresh]
    exact (Token.agree_refreshed hblind ht).seenAs _ fun _ _ h => .token h

/-- Secrets do not show: two runs that differ in them alone, and whose URLs are not too long, fail
with the same failure or bring results that are the same but for their secrets and the same in
writing. They send as many requests, write the same log and leave worlds that look alike. No secret
can be told from another in writing either. -/
theorem keeps_secrets (hblind : Http.Server.IsBlind σ) (h : op.SameButSecrets op')
    {w w' : World σ τ} (hw : w.LooksLike w') (hshort : StaysShort (op.run w))
    (hshort' : StaysShort (op'.run w')) :
    (∀ e, (op.run w).1 = .error e ↔ (op'.run w').1 = .error e) ∧
      (∀ a, (op.run w).1 = .ok a → ∃ b, (op'.run w').1 = .ok b ∧ a.SameButSecrets b ∧
        ∀ rest, a.describeToken rest = b.describeToken rest) ∧
      (op.run w).2.log = (op'.run w').2.log ∧ (op.run w).2.LooksLike (op'.run w').2 ∧
      ∀ k, k ≠ .clientId → ∀ s s' : Credential k, s.shown = s'.shown ∧ s.describe = s'.describe ∧
        ∀ layout, s.format layout = s'.format layout := by
  have hsecret : ∀ k, k ≠ .clientId → ∀ s s' : Credential k, s.shown = s'.shown ∧
      s.describe = s'.describe ∧ ∀ layout, s.format layout = s'.format layout := fun k hk s s' => by
    refine Credential.shown_eq_of_isSecret ?_ s s'
    cases k <;> first | rfl | exact absurd rfl hk
  have hrun := agree_run hblind h w w' hw
  generalize op.run w = run at hrun hshort
  generalize op'.run w' = run' at hrun hshort'
  cases hrun with
  | left he v run => exact absurd (congrArg Except.error he) hshort
  | right he v run => exact absurd (congrArg Except.error he) hshort'
  | error e hv => exact ⟨fun _ => .rfl, fun _ h => (nomatch h), hv.log, hv, hsecret⟩
  | ok hab hv =>
    refine ⟨fun _ => ⟨nofun, nofun⟩, fun a ha => ?_, hv.log, hv, hsecret⟩
    cases ha
    exact ⟨_, rfl, hab, hab.describeToken⟩

/-- Another refresh token and another secret, at an endpoint with a query of its own. -/
theorem keeps_secrets_refused :
    let refusal := Text.Utf8.encode "\x7b\x22status\x22:400,\x22message\x22:\x22no\x22\x7d".toList
    let settings : Settings := { tokenOverride := some "https://id.tv/token?tenant=7" }
    let w : World Http.Script Int :=
      { server := ⟨[("/token", [.answer ⟨400, [], refusal⟩])]⟩
        client := .bare, settings := .ok settings, now := 0 }
    let op : Operation Http.Script Int := .refresh (some ⟨"r"⟩) (some ⟨"cid"⟩) (some ⟨"s"⟩)
    let op' : Operation Http.Script Int := .refresh (some ⟨"other"⟩) (some ⟨"cid"⟩) (some ⟨"&#\x22"⟩)
    Http.Server.IsBlind Http.Script ∧ op.SameButSecrets op' ∧ w.LooksLike w ∧
      StaysShort (op.run w) ∧ StaysShort (op'.run w) ∧
      (op.run w).1 = .error (.fault (.refresh (.call (.answer (.refused ⟨400, "no", none⟩))))) ∧
      (op'.run w).1 = .error (.fault (.refresh (.call (.answer (.refused ⟨400, "no", none⟩))))) ∧
      (op.run w).2.log = (op'.run w).2.log := by
  intro refusal settings w op op'
  have h : op.SameButSecrets op' :=
    .refresh (.ascii (by decide) (by decide)) (some ⟨"cid"⟩) (.ascii (by decide) (by decide))
  have hrefused : (op.run w).1 =
      .error (.fault (.refresh (.call (.answer (.refused ⟨400, "no", none⟩))))) := by
    decide +kernel
  have hshort : StaysShort (op.run w) := by
    unfold StaysShort
    rw [hrefused]
    nofun
  have hshort' : StaysShort (op'.run w) := by
    unfold StaysShort
    decide +kernel
  obtain ⟨hfailure, -, hlog, -⟩ :=
    keeps_secrets Http.Script.isBlind h (.refl w) hshort hshort'
  exact ⟨Http.Script.isBlind, h, .refl w, hshort, hshort', hrefused, (hfailure _).1 hrefused, hlog⟩

end Operation

end Bearer
