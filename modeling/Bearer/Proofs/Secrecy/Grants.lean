import Bearer.Grant.Code
import Bearer.Grant.Implicit
import Bearer.Proofs.Grant.DeviceAlone
import Bearer.Proofs.Secrecy.Tokens

/-!
# Grants with other secrets

A code, a CSRF token and the secret of a client may be others. A browser flow goes by whether the
state is the one sent, not by what it is; a device flow only sends the secret on. So both agree,
with tokens that differ in their secrets alone.

* `agree_exchangeCode`, `agree_acceptToken`: browser flows after the redirect.
* `agree_askCodes`, `agree_pollWith`, `agree_pollLoop`: device flows.
-/
namespace Bearer

open Http (Request)
open Credential (SameButText)
open Bearer.Flow

variable {σ τ : Type} [Http.Server σ] (hblind : Http.Server.IsBlind σ)

include hblind

omit [Http.Server σ] hblind in
/-- What is noted of a new token names its user, and so no secret. -/
theorem UserToken.agree_noteLogin {ε α β : Type} {R : α → β → Prop} {t t' : UserToken τ}
    (h : t.SameButSecrets t') (part lead : String) {a : α} {b : β} (hab : R a b) :
    Agree R (note .info part (lead ++ t.shownLogin) >>= fun _ => pure a : Flow (World σ τ) ε α)
      (note .info part (lead ++ t'.shownLogin) >>= fun _ => pure b) := by
  unfold UserToken.shownLogin
  rw [h.login]
  exact (agree_note _ _ _).bind fun _ _ _ => agree_pure hab

/-! ## Browser flows -/

/-- Browser flows that differ in their CSRF tokens alone. -/
structure BrowserGrant.SameButCsrf (g g' : BrowserGrant) : Prop where
  responseType : g.responseType = g'.responseType
  clientId : g.clientId = g'.clientId
  redirectUrl : g.redirectUrl = g'.redirectUrl
  scopes : g.scopes = g'.scopes
  forceVerify : g.forceVerify = g'.forceVerify

/-- Redirects that differ in their states and their tokens alone. -/
structure ImplicitRedirect.SameButSecrets (r r' : ImplicitRedirect) : Prop where
  accessToken : SameButText r.accessToken r'.accessToken
  error : r.error = r'.error
  description : r.description = r'.description

namespace BrowserGrant

variable {g g' : BrowserGrant}

omit [Http.Server σ] hblind in
theorem exchangeRequest_alike (h : g.SameButCsrf g') {secret secret' : Option ClientSecret}
    (hsecret : SameButText secret secret') (code code' : String) (settings : Answer.Loaded) :
    Alike Escape.IsTooLong Request.LooksLike (exchangeRequest settings g secret code)
      (exchangeRequest settings g' secret' code') := by
  have hparams : Alike Escape.IsTooLong Endpoint.BothEmpty (g.exchangeParams secret code)
      (g'.exchangeParams secret' code') := by
    unfold exchangeParams
    rw [h.clientId]
    exact (Endpoint.textOf_alike (.same _)).bind fun _ _ _ =>
      (Endpoint.textOf_alike hsecret).bind fun _ _ _ => .ok rfl
  exact Endpoint.postLate_alike hparams settings Settings.tokenUrl

/-- Another code, and another CSRF token that the state matches or not as before, go unnoticed. -/
theorem agree_exchangeCode (h : g.SameButCsrf g') {secret secret' : Option ClientSecret}
    (hsecret : SameButText secret secret') {state state' : Option String}
    (hstate : g.checkState state = g'.checkState state') (code code' : String) :
    Agree UserToken.SameButSecrets (g.exchangeCode secret state code : Flow (World σ τ) _ _)
      (g'.exchangeCode secret' state' code') := by
  refine (agree_prepare fun _ => .of_eq hstate).bind fun isValid _ hvalid => ?_
  subst hvalid
  split
  · refine (agree_prepare (exchangeRequest_alike h hsecret code code')).bind fun _ _ hrequest => ?_
    refine ((agree_call hblind hrequest .token).mapFault _).bind fun answer _ hanswer => ?_
    subst hanswer
    exact ((UserToken.agree_ofAnswer hblind hsecret answer).mapFault _).bind fun _ _ ht =>
      UserToken.agree_noteLogin ht _ _ ht
  · exact agree_fail _

theorem agree_acceptToken {r r' : ImplicitRedirect} (h : r.SameButSecrets r')
    (hstate : g.isAnsweredBy r = g'.isAnsweredBy r') :
    Agree UserToken.SameButSecrets (g.acceptToken r : Flow (World σ τ) _ _) (g'.acceptToken r') := by
  unfold acceptToken
  rw [hstate, h.error, h.description]
  split
  · rcases h.accessToken.absent_or_present with ⟨hnone, hnone'⟩ | ⟨a, a', ha, ha', haccess⟩
    · rw [hnone, hnone']
      exact agree_fail _
    · rw [ha, ha']
      exact ((UserToken.agree_ofExisting hblind haccess (.same _) (.same _)).mapFault _).bind
        fun _ _ ht => UserToken.agree_noteLogin ht _ _ ht
  · exact agree_fail _

end BrowserGrant

/-! ## Device flows -/

/-- Device flows that differ in the secret of the client alone. -/
structure DeviceGrant.SameButSecrets (g g' : DeviceGrant τ) : Prop where
  clientId : g.clientId = g'.clientId
  scopes : g.scopes = g'.scopes
  clientSecret : SameButText g.clientSecret g'.clientSecret
  codes : g.codes = g'.codes
  startedAt : g.startedAt = g'.startedAt

namespace DeviceGrant

variable {g g' : DeviceGrant τ}

theorem agree_askCodes (h : g.SameButSecrets g') :
    Agree Eq (g.askCodes : Flow (World σ τ) _ _) g'.askCodes := by
  have hrequest : ∀ settings, Alike Escape.IsTooLong Request.LooksLike (startRequest settings g)
      (startRequest settings g') := fun settings => by
    have hparams : Alike Escape.IsTooLong Endpoint.BothEmpty g.startParams g'.startParams := by
      unfold startParams
      rw [h.clientId]
      exact (Endpoint.textOf_alike (.same _)).bind fun _ _ _ => .ok rfl
    exact Endpoint.postLate_alike hparams settings Settings.deviceUrl
  refine (agree_prepare hrequest).bind fun _ _ hr => ?_
  refine ((agree_call hblind hr .deviceCodes).mapFault _).bind fun codes _ hcodes => ?_
  subst hcodes
  exact agree_now.bind fun _ _ _ => (agree_note _ _ _).bind fun _ _ _ => agree_pure rfl

omit [Http.Server σ] hblind in
theorem pollRequest_alike (h : g.SameButSecrets g') (codes : DeviceCodes)
    (settings : Answer.Loaded) :
    Alike Escape.IsTooLong Request.LooksLike (pollRequest settings g codes)
      (pollRequest settings g' codes) := by
  have hparams : Alike Escape.IsTooLong Endpoint.BothEmpty (g.pollParams codes)
      (g'.pollParams codes) := by
    unfold pollParams
    rw [h.clientId]
    exact (Endpoint.textOf_alike (.same _)).bind fun _ _ _ => .ok rfl
  exact Endpoint.postEarly_alike hparams settings Settings.tokenUrl

theorem agree_askAnswer {r r' : Request} (h : r.LooksLike r') :
    Agree Eq (askAnswer r : Flow (World σ τ) _ _) (askAnswer r') := by
  refine ((agree_call hblind h .token).bind fun answer _ hanswer =>
    agree_pure (congrArg some hanswer)).handle fun f => ?_
  unfold pollFault
  split
  · split
    · exact agree_pure rfl
    · exact agree_fail _
  · exact agree_fail _

theorem agree_pollWith (h : g.SameButSecrets g') (codes : DeviceCodes) :
    Agree (Option.Rel UserToken.SameButSecrets) (g.pollWith codes : Flow (World σ τ) _ _)
      (g'.pollWith codes) := by
  refine (agree_prepare (pollRequest_alike h codes)).bind fun _ _ hrequest => ?_
  refine (agree_askAnswer hblind hrequest).bind fun answer _ hanswer => ?_
  subst hanswer
  cases answer with
  | none => exact agree_pure .none
  | some answer =>
    exact ((UserToken.agree_ofAnswer hblind h.clientSecret answer).mapFault _).bind
      fun _ _ ht => UserToken.agree_noteLogin ht _ _ (.some ht)

variable [Time.Clock τ] {sleep : τ → Flow (World σ τ) Empty Unit}

open Time (Clock)

/-- By induction on the polls that are left: each poll agrees, and so does what comes behind it. -/
theorem agree_pollLoop (h : g.SameButSecrets g') (codes : DeviceCodes)
    (hsleep : ∀ length, Agree Eq (sleep length) (sleep length)) (interval deadline : τ)
    (limit : Nat) :
    Agree UserToken.SameButSecrets
      (g.pollLoop codes sleep interval deadline limit : Flow (World σ τ) _ _)
      (g'.pollLoop codes sleep interval deadline limit) := by
  induction limit with
  | zero => exact agree_escape _
  | succ limit ih =>
    rw [pollLoop, pollLoop]
    refine (agree_pollWith hblind h codes).bind fun outcome outcome' houtcome => ?_
    cases houtcome with
    | some ht => exact agree_pure ht
    | none =>
      refine agree_now.bind fun now _ hnow => ?_
      subst hnow
      split
      · exact agree_fail _
      · exact (agree_note _ _ _).bind fun _ _ _ =>
          ((hsleep interval).mapFault _).bind fun _ _ _ => ih

end DeviceGrant

end Bearer
