import Bearer.Proofs.Secrecy.Flows
import Bearer.Proofs.Token.Alone

/-!
# Tokens with other secrets

A secret may be another one: only that it is there, and can stand in a header field, may show. With
other secrets every request looks alike, so what the endpoints do agrees, and the tokens that come
of it differ in their secrets alone.

* `Token.SameButSecrets.describe`: such tokens in writing.
* `post_alike`, `validationRequest_alike`: the requests of the endpoints.
* `agree_ofAnswer`, `agree_refreshed`: how tokens are made and refreshed.
-/
namespace Bearer

open Http (Request)

/-! ## Credentials -/

/-- Two credentials, both of which may be absent: the same, or two that are ASCII. -/
inductive Credential.SameButText {k : CredentialKind} :
    Option (Credential k) → Option (Credential k) → Prop
  | same (c : Option (Credential k)) : SameButText c c
  | ascii {a b : Credential k} (ha : Text.isAscii a.text = true) (hb : Text.isAscii b.text = true) :
      SameButText (some a) (some b)

namespace Credential.SameButText

variable {k : CredentialKind} {a b : Option (Credential k)}

theorem isSome_eq (h : SameButText a b) : a.isSome = b.isSome := by
  cases h <;> rfl

/-- Both are absent, or both are there. -/
theorem absent_or_present (h : SameButText a b) :
    (a = none ∧ b = none) ∨ ∃ c d, a = some c ∧ b = some d ∧ SameButText (some c) (some d) := by
  cases h with
  | same =>
    cases a with
    | none => exact .inl ⟨rfl, rfl⟩
    | some c => exact .inr ⟨c, c, rfl, rfl, .same _⟩
  | ascii ha hb => exact .inr ⟨_, _, rfl, rfl, .ascii ha hb⟩

/-- What is shown of a secret does not tell it from another. -/
theorem describe (h : SameButText a b) (hk : k.isSecret = true) :
    Token.describeOption Credential.describe a = Token.describeOption Credential.describe b :=
  Token.describe_secret hk h.isSome_eq

end Credential.SameButText

open Credential (SameButText)

/-! ## Tokens -/

/-- App tokens that differ in their secrets alone. -/
structure AppToken.SameButSecrets {τ : Type} (t t' : AppToken τ) : Prop where
  accessToken : SameButText t.accessToken t'.accessToken
  refreshToken : SameButText t.refreshToken t'.refreshToken
  clientId : t.clientId = t'.clientId
  clientSecret : SameButText t.clientSecret t'.clientSecret
  scopes : t.scopes = t'.scopes
  lifetime : t.lifetime = t'.lifetime

/-- User tokens that differ in their secrets alone. -/
structure UserToken.SameButSecrets {τ : Type} (t t' : UserToken τ) : Prop where
  accessToken : SameButText t.accessToken t'.accessToken
  refreshToken : SameButText t.refreshToken t'.refreshToken
  clientId : t.clientId = t'.clientId
  clientSecret : SameButText t.clientSecret t'.clientSecret
  login : t.login = t'.login
  userId : t.userId = t'.userId
  scopes : t.scopes = t'.scopes
  lifetime : t.lifetime = t'.lifetime

/-- Tokens that differ in their secrets alone. -/
inductive Token.SameButSecrets {τ : Type} : Token τ → Token τ → Prop
  | app {t t' : AppToken τ} (h : t.SameButSecrets t') : SameButSecrets (.app t) (.app t')
  | user {t t' : UserToken τ} (h : t.SameButSecrets t') : SameButSecrets (.user t) (.user t')

/-- Tokens that differ in their secrets alone are the same in writing. -/
theorem Token.SameButSecrets.describe {τ : Type} {t t' : Token τ} (h : t.SameButSecrets t')
    (rest : Option Time.Span) : t.describe rest = t'.describe rest := by
  cases h with
  | app h =>
    unfold Token.describe Token.describeParts
    simp only [Token.accessToken, Token.refreshToken, Token.clientId, Token.clientSecret,
      Token.scopes]
    rw [h.accessToken.describe rfl, h.refreshToken.describe rfl, h.clientId,
      h.clientSecret.describe rfl, h.scopes]
  | user h =>
    unfold Token.describe Token.describeParts
    simp only [Token.accessToken, Token.refreshToken, Token.clientId, Token.clientSecret,
      Token.scopes]
    rw [h.accessToken.describe rfl, h.refreshToken.describe rfl, h.clientId,
      h.clientSecret.describe rfl, h.login, h.userId, h.scopes]

/-! ## Requests -/

namespace Endpoint

theorem textOf_alike {k : CredentialKind} {a b : Option (Credential k)} (h : SameButText a b) :
    Alike Escape.IsTooLong (fun s t => Text.isAscii s = Text.isAscii t) (textOf a) (textOf b) := by
  cases h with
  | same => exact Alike.refl (T := fun s t => Text.isAscii s = Text.isAscii t) (fun _ => rfl) _
  | ascii ha hb => exact .ok (ha.trans hb.symm)

/-- Both parameter lists are empty, or neither is. -/
def BothEmpty (ps ps' : List Url.Form.Param) : Prop :=
  ps.isEmpty = ps'.isEmpty

theorem made_alike {x y : Except Http.RequestFault Request}
    (h : Alike Http.RequestFault.IsTooLong Request.LooksLike x y) :
    Alike Escape.IsTooLong Request.LooksLike (x.mapError .request) (y.mapError .request) :=
  h.mapError fun e he => by
    rw [he]
    rfl

theorem post_alike (endpoint : String) {ps ps' : List Url.Form.Param} (h : BothEmpty ps ps') :
    Alike Escape.IsTooLong Request.LooksLike (post endpoint ps) (post endpoint ps') :=
  made_alike (Http.Request.make_looksLike "POST" endpoint h rfl rfl [])

theorem settingsOf_alike (settings : Answer.Loaded) :
    Alike Escape.IsTooLong Eq (settingsOf settings) (settingsOf settings) :=
  .of_eq rfl

variable {ps ps' : Except Escape (List Url.Form.Param)}

/-- A request looks alike whose parameters are made once the settings have loaded. -/
theorem postLate_alike (h : Alike Escape.IsTooLong BothEmpty ps ps') (settings : Answer.Loaded)
    (endpoint : Settings → String) :
    Alike Escape.IsTooLong Request.LooksLike
      (settingsOf settings >>= fun s => ps >>= post (endpoint s))
      (settingsOf settings >>= fun s => ps' >>= post (endpoint s)) := by
  refine (settingsOf_alike settings).bind fun s _ hs => ?_
  subst hs
  exact h.bind fun _ _ => post_alike _

/-- A request looks alike whose parameters are made before the settings are looked at. -/
theorem postEarly_alike (h : Alike Escape.IsTooLong BothEmpty ps ps') (settings : Answer.Loaded)
    (endpoint : Settings → String) :
    Alike Escape.IsTooLong Request.LooksLike
      (ps >>= fun params => settingsOf settings >>= fun s => post (endpoint s) params)
      (ps' >>= fun params => settingsOf settings >>= fun s => post (endpoint s) params) := by
  refine h.bind fun _ _ hps => ?_
  refine (settingsOf_alike settings).bind fun s _ hs => ?_
  subst hs
  exact post_alike _ hps

theorem validationRequest_alike {a b : Option AccessToken} (h : SameButText a b)
    (settings : Answer.Loaded) :
    Alike Escape.IsTooLong Request.LooksLike (validationRequest settings a)
      (validationRequest settings b) := by
  refine (settingsOf_alike settings).bind fun s _ hs => ?_
  subst hs
  refine (textOf_alike h).bind fun text text' htext => ?_
  have hascii : Http.Headers.areAscii [("Authorization", "OAuth " ++ text)] =
      Http.Headers.areAscii [("Authorization", "OAuth " ++ text')] := by
    rw [areAscii_authorization, areAscii_authorization, htext]
  have hnames : Http.Headers.SameNames [("Authorization", "OAuth " ++ text)]
      [("Authorization", "OAuth " ++ text')] := rfl
  exact made_alike (Http.Request.make_looksLike "GET" s.validateUrl rfl hnames hascii [])

theorem revocationRequest_alike {a b : Option AccessToken} (h : SameButText a b)
    (client : Option ClientId) (settings : Answer.Loaded) :
    Alike Escape.IsTooLong Request.LooksLike (revocationRequest settings a client)
      (revocationRequest settings b client) := by
  have hparams : Alike Escape.IsTooLong BothEmpty (revocationParams a client)
      (revocationParams b client) :=
    (textOf_alike (.same client)).bind fun _ _ _ => (textOf_alike h).bind fun _ _ _ => .ok rfl
  exact postLate_alike hparams settings Settings.revokeUrl

theorem credentialsRequest_alike {a b : Option ClientSecret} (h : SameButText a b)
    (client : Option ClientId) (scopes : List Scope) (settings : Answer.Loaded) :
    Alike Escape.IsTooLong Request.LooksLike (credentialsRequest settings client a scopes)
      (credentialsRequest settings client b scopes) := by
  have hparams : Alike Escape.IsTooLong BothEmpty (credentialsParams client a scopes)
      (credentialsParams client b scopes) :=
    (textOf_alike (.same client)).bind fun _ _ _ => (textOf_alike h).bind fun _ _ _ => .ok rfl
  exact postLate_alike hparams settings Settings.tokenUrl

theorem refreshRequest_alike {a b : Option RefreshToken} (h : SameButText a b)
    (client : Option ClientId) (secret secret' : Option ClientSecret)
    (settings : Answer.Loaded) :
    Alike Escape.IsTooLong Request.LooksLike (refreshRequest settings a client secret)
      (refreshRequest settings b client secret') := by
  have hparams : Alike Escape.IsTooLong BothEmpty (refreshParams a client secret)
      (refreshParams b client secret') :=
    (textOf_alike (.same client)).bind fun _ _ _ => (textOf_alike h).bind fun _ _ _ => .ok rfl
  exact postEarly_alike hparams settings Settings.tokenUrl

end Endpoint

/-! ## Endpoints -/

open Bearer.Flow

variable {σ τ : Type} [Http.Server σ] (hblind : Http.Server.IsBlind σ)

include hblind

namespace Endpoint

theorem agree_validate {a b : Option AccessToken} (h : SameButText a b) :
    Agree Eq (validate a : Flow (World σ τ) _ _) (validate b) := by
  refine (agree_prepare (validationRequest_alike h)).bind fun _ _ hrequest => ?_
  refine ((agree_send hblind hrequest).mapFault _).bind fun response _ hresponse => ?_
  subst hresponse
  split
  · exact agree_fail _
  · refine ((agree_accept .validation response).mapFault _).bind fun v _ hv => ?_
    subst hv
    exact (agree_note _ _ _).bind fun _ _ _ => agree_pure rfl

theorem agree_revoke {a b : Option AccessToken} (h : SameButText a b) (client : Option ClientId) :
    Agree Eq (revoke a client : Flow (World σ τ) _ _) (revoke b client) := by
  refine (agree_prepare (revocationRequest_alike h client)).bind fun _ _ hrequest => ?_
  refine ((agree_send hblind hrequest).mapFault _).bind fun response _ hresponse => ?_
  subst hresponse
  split
  · exact agree_fail _
  · exact agree_note _ _ _

theorem agree_credentials {a b : Option ClientSecret} (h : SameButText a b)
    (client : Option ClientId) (scopes : List Scope) :
    Agree Eq (credentials client a scopes : Flow (World σ τ) _ _) (credentials client b scopes) := by
  refine (agree_prepare (credentialsRequest_alike h client scopes)).bind fun _ _ hrequest => ?_
  refine ((agree_call hblind hrequest .token).mapFault _).bind fun answer _ hanswer => ?_
  subst hanswer
  exact (agree_note _ _ _).bind fun _ _ _ => agree_pure rfl

theorem agree_refresh {a b : Option RefreshToken} (h : SameButText a b) (client : Option ClientId)
    (secret secret' : Option ClientSecret) :
    Agree Eq (refresh a client secret : Flow (World σ τ) _ _) (refresh b client secret') := by
  refine (agree_prepare (refreshRequest_alike h client secret secret')).bind fun _ _ hrequest => ?_
  refine ((agree_call hblind hrequest .token).mapFault _).bind fun answer _ hanswer => ?_
  subst hanswer
  split
  · exact agree_fail _
  · exact (agree_note _ _ _).bind fun _ _ _ => agree_pure rfl

end Endpoint

/-! ## Tokens -/

namespace AppToken

theorem agree_obtain {a b : Option ClientSecret} (h : SameButText a b) (client : Option ClientId)
    (scopes : List Scope) :
    Agree SameButSecrets (obtain client a scopes : Flow (World σ τ) _ _)
      (obtain client b scopes) := by
  refine (Endpoint.agree_credentials hblind h client scopes).bind fun answer _ hanswer => ?_
  subst hanswer
  refine agree_now.bind fun now _ hnow => ?_
  subst hnow
  exact agree_pure ⟨.same _, .same _, rfl, h, rfl, rfl⟩

theorem agree_ofExisting {access access' : Option AccessToken} (haccess : SameButText access access')
    {spare spare' : Option RefreshToken} (hspare : SameButText spare spare')
    {secret secret' : Option ClientSecret} (hsecret : SameButText secret secret') :
    Agree SameButSecrets (ofExisting access spare secret : Flow (World σ τ) _ _)
      (ofExisting access' spare' secret') := by
  refine (Endpoint.agree_validate hblind haccess).bind fun v _ hv => ?_
  subst hv
  refine agree_now.bind fun now _ hnow => ?_
  subst hnow
  exact agree_pure ⟨haccess, hspare, rfl, hsecret, rfl, rfl⟩

theorem agree_refreshed {t t' : AppToken τ} (h : t.SameButSecrets t') :
    Agree SameButSecrets (t.refreshed : Flow (World σ τ) _ _) t'.refreshed := by
  unfold refreshed
  rw [← h.clientId, ← h.scopes]
  rcases h.refreshToken.absent_or_present with ⟨hnone, hnone'⟩ | ⟨r, r', hr, hr', hspare⟩
  · rw [hnone, hnone']
    refine ((agree_obtain hblind h.clientSecret _ _).mapFault _).bind fun new new' hnew => ?_
    refine agree_pure ⟨hnew.accessToken, hnew.refreshToken, h.clientId, h.clientSecret, ?_,
      hnew.lifetime⟩
    simp only [withRenewed, hnew.scopes, h.scopes]
  · rw [hr, hr']
    refine (Endpoint.agree_refresh hblind hspare _ _ _).bind fun answer _ hanswer => ?_
    subst hanswer
    refine agree_now.bind fun now _ hnow => ?_
    subst hnow
    exact agree_pure ⟨.same _, .same _, h.clientId, h.clientSecret, h.scopes, rfl⟩

end AppToken

namespace UserToken

omit [Http.Server σ] hblind in
theorem agree_assemble {access access' : Option AccessToken} (haccess : SameButText access access')
    {spare spare' : Option RefreshToken} (hspare : SameButText spare spare')
    {secret secret' : Option ClientSecret} (hsecret : SameButText secret secret') (v : Validation) :
    Agree SameButSecrets (assemble v access spare secret : Flow (World σ τ) _ _)
      (assemble v access' spare' secret') := by
  unfold assemble
  refine agree_now.bind fun now _ hnow => ?_
  subst hnow
  unfold ofValidation?
  cases v.login <;> cases v.userId
  case some.some login userId =>
    exact agree_pure ⟨haccess, hspare, rfl, hsecret, rfl, rfl, rfl, rfl⟩
  all_goals exact agree_fail _

theorem agree_ofExisting {access access' : Option AccessToken} (haccess : SameButText access access')
    {spare spare' : Option RefreshToken} (hspare : SameButText spare spare')
    {secret secret' : Option ClientSecret} (hsecret : SameButText secret secret') :
    Agree SameButSecrets (ofExisting access spare secret : Flow (World σ τ) _ _)
      (ofExisting access' spare' secret') := by
  refine (Endpoint.agree_validate hblind haccess).bind fun v _ hv => ?_
  subst hv
  exact agree_assemble haccess hspare hsecret v

theorem agree_ofAnswer {secret secret' : Option ClientSecret} (h : SameButText secret secret')
    (answer : TokenAnswer) :
    Agree SameButSecrets (ofAnswer answer secret : Flow (World σ τ) _ _) (ofAnswer answer secret') :=
  agree_ofExisting hblind (.same _) (.same _) h

theorem agree_refreshed {t t' : UserToken τ} (h : t.SameButSecrets t') :
    Agree SameButSecrets (t.refreshed : Flow (World σ τ) _ _) t'.refreshed := by
  unfold refreshed
  rw [← h.clientId]
  rcases h.refreshToken.absent_or_present with ⟨hnone, hnone'⟩ | ⟨r, r', hr, hr', hspare⟩
  · rw [hnone, hnone']
    exact agree_fail _
  · rw [hr, hr']
    refine (Endpoint.agree_refresh hblind hspare _ _ _).bind fun answer _ hanswer => ?_
    subst hanswer
    refine agree_now.bind fun now _ hnow => ?_
    subst hnow
    exact agree_pure ⟨.same _, .same _, h.clientId, h.clientSecret, h.login, h.userId, h.scopes,
      rfl⟩

end UserToken

/-- Tokens that differ in their secrets alone are refreshed alike. -/
theorem Token.agree_refreshed {t t' : Token τ} (h : t.SameButSecrets t') :
    Agree SameButSecrets (t.refreshed : Flow (World σ τ) _ _) t'.refreshed := by
  cases h with
  | app h =>
    exact (AppToken.agree_refreshed hblind h).bind fun _ _ h => agree_pure (.app h)
  | user h =>
    exact (UserToken.agree_refreshed hblind h).bind fun _ _ h => agree_pure (.user h)

end Bearer
