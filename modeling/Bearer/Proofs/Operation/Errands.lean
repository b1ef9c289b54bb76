import Bearer.Endpoint.Validation
import Bearer.Proofs.Flow.Sending
import Bearer.Proofs.Http.Requests
import Bearer.Proofs.Url.Parameters

/-!
# What requests are sent for

Every request is sent on one of two errands: parameters are posted to an endpoint, or a token is
shown to be validated. The errand tells all of the request that is sent, and whether one can be sent
at all. Secrets of clients, refresh tokens and codes show nowhere in it but in the query of a
request to the endpoint for tokens.

* `sendable_iff`: what it takes for a request to be sent.
* `sentAs`: what is sent.
* `Makes`: the requests of the endpoints and grants as errands.
-/
namespace Bearer

variable {τ : Type}

/-! ## Secrets -/

namespace UrlBuilder

/-- Builders that differ in secrets of clients, refresh tokens and codes alone. Only the scopes of a
device flow count, whatever else it holds. -/
inductive SameButSecrets : UrlBuilder τ → UrlBuilder τ → Prop
  | same (b : UrlBuilder τ) : SameButSecrets b b
  | credentials (client : ClientId) (secret secret' : ClientSecret) (scopes : List Scope) :
    SameButSecrets (.credentials client secret scopes) (.credentials client secret' scopes)
  | refresh (token token' : RefreshToken) (client : ClientId) (secret secret' : Option ClientSecret) :
    SameButSecrets (.refresh token client secret) (.refresh token' client secret')
  | exchange (g : BrowserGrant) (client : ClientId) (secret secret' : ClientSecret)
      (code code' : String) :
    SameButSecrets (.exchange g client secret code) (.exchange g client secret' code')
  | start {g g' : DeviceGrant τ} (h : g'.scopes = g.scopes) (client : ClientId) :
    SameButSecrets (.start g client) (.start g' client)
  | poll {g g' : DeviceGrant τ} (h : g'.scopes = g.scopes) (client : ClientId)
      (codes codes' : DeviceCodes) : SameButSecrets (.poll g client codes) (.poll g' client codes')

/-- Other secrets are for the same endpoint, and they are among the parameters for tokens alone. -/
theorem SameButSecrets.params {b b' : UrlBuilder τ} (h : b.SameButSecrets b') (s : Settings) :
    b'.endpoint s = b.endpoint s ∧ (b'.params = b.params ∨ b.endpoint s = s.tokenUrl) := by
  cases h with
  | same => exact ⟨rfl, .inl rfl⟩
  | start h client => exact ⟨rfl, .inl (by simp only [UrlBuilder.params, h])⟩
  | credentials | refresh | exchange | poll => exact ⟨rfl, .inr rfl⟩

end UrlBuilder

/-! ## Errands -/

/-- What a request is sent for. -/
inductive Errand (τ : Type) where
  /-- Parameters are posted. -/
  | post (b : UrlBuilder τ)
  /-- A token is shown to be validated. -/
  | validation (token : AccessToken)

namespace Errand

/-- The endpoint that its request goes to. -/
def endpoint (s : Settings) : Errand τ → String
  | .post b => b.endpoint s
  | .validation _ => s.validateUrl

/-- The method of its request. -/
def method : Errand τ → String
  | .post _ => "POST"
  | .validation _ => "GET"

/-- The parameters that its request puts into the query. -/
def params : Errand τ → List Url.Form.Param
  | .post b => b.params
  | .validation _ => []

/-- The header fields that its request is given. -/
def fields : Errand τ → List (String × String)
  | .post _ => []
  | .validation token => [("Authorization", "OAuth " ++ token.text)]

/-- Its request. -/
def request (s : Settings) (e : Errand τ) : Except Http.RequestFault Http.Request :=
  Http.Request.make e.method (e.endpoint s) e.params e.fields []

variable {s : Settings} {e : Errand τ} {c : Http.Client}

theorem upper_method (e : Errand τ) : Text.upper e.method = e.method := by
  have hpost : Text.upper "POST" = "POST" := by decide +kernel
  have hget : Text.upper "GET" = "GET" := by decide +kernel
  cases e with
  | post => exact hpost
  | validation => exact hget

/-! ### Whether a request is sent -/

/-- What it takes for its request to be sent: the endpoint is a URL that takes the parameters, also
without its query, the host of it is a proper name, and the token that is shown is ASCII, as is what
the client calls itself. -/
structure Sendable (s : Settings) (c : Http.Client) (e : Errand τ) : Prop where
  url : ∃ u, ((Url.parse (e.endpoint s)).bind fun u => u.withParams e.params) = .ok u ∧
    (∃ host, u.plainHost = .ok host) ∧ ∃ place, u.withQuery none = .ok place
  token : ∀ token, e = .validation token → Text.isAscii token.text = true
  name : ∀ name, c = .agent name → Text.isAscii name = true

theorem areAscii_fields : Http.Headers.areAscii e.fields = true ↔
    ∀ token, e = .validation token → Text.isAscii token.text = true := by
  cases e with
  | post b => exact iff_of_true rfl nofun
  | validation token => simp [fields, Endpoint.areAscii_authorization]

/-- No errand gives its request these fields, so the host is always looked at. -/
theorem value?_fields {name : String} (h : name ≠ "authorization") :
    (Http.Headers.ofFields e.fields).value? name = none := by
  have hname : Text.lower "Authorization" = "authorization" := by decide +kernel
  cases e with
  | post b => rfl
  | validation token =>
    simp [fields, Http.Headers.ofFields, Http.Headers.value?, Http.Headers.values, hname, Ne.symm h]

theorem checkHost_eq_ok_iff {u : Url} :
    ((Http.Headers.ofFields e.fields).setDefault "accept" "application/json").checkHost u = .ok () ↔
      ∃ host, u.plainHost = .ok host := by
  have hhost : ((Http.Headers.ofFields e.fields).setDefault "accept" "application/json").has "host" =
      false := by
    rw [Http.Headers.has_eq_isSome, Http.Headers.value?_setDefault_of_ne _ _ (by decide),
      value?_fields (by decide)]
    rfl
  unfold Http.Headers.checkHost
  simp only [hhost, Bool.false_eq_true, if_false]
  cases u.plainHost <;> simp

theorem canSend_iff {r : Http.Request} (h : e.request s = .ok r) :
    c.canSend r = true ↔ ∀ name, c = .agent name → Text.isAscii name = true := by
  have hagent : r.headers.has "user-agent" = false := by
    rw [(Http.Request.make_parts h).2.1, Http.Headers.has_eq_isSome,
      Http.Request.value?_fieldsFor _ _ _ _ (by decide) (by decide) (by decide),
      value?_fields (by decide)]
    rfl
  cases c with
  | agent name => simp [Http.Client.canSend, hagent]
  | bare => exact iff_of_true rfl nofun
  | custom => exact iff_of_true rfl nofun

/-- A request is sent if it can be made and the client can send it. -/
theorem sendable_iff {σ : Type} {w : World σ τ} :
    e.Sendable s w.client ↔ ∃ r, e.request s = .ok r ∧ w.CanSend r := by
  constructor
  · rintro ⟨⟨u, hu, hhost, hplace⟩, htoken, hname⟩
    have hmade : e.request s = .ok ⟨Text.upper e.method, u,
        Http.Request.fieldsFor e.method e.fields [] u, []⟩ :=
      Http.Request.make_eq_ok_iff.2
        ⟨hu, areAscii_fields.2 htoken, checkHost_eq_ok_iff.2 hhost, rfl, rfl, rfl⟩
    exact ⟨_, hmade, hplace, (canSend_iff hmade).2 hname⟩
  · rintro ⟨r, hmade, hplace, hclient⟩
    obtain ⟨hu, hascii, hhost, -⟩ := Http.Request.make_eq_ok_iff.1 hmade
    exact ⟨⟨r.url, hu, checkHost_eq_ok_iff.1 hhost, hplace⟩, areAscii_fields.1 hascii,
      (canSend_iff hmade).1 hclient⟩

/-- Whether the request that is made is sent is up to the client then. -/
theorem sendable_iff_canSend {σ : Type} {w : World σ τ} {r : Http.Request}
    (h : e.request s = .ok r) : e.Sendable s w.client ↔ w.CanSend r := by
  rw [sendable_iff]
  constructor
  · rintro ⟨r', h', hcan⟩
    rw [h] at h'
    cases h'
    exact hcan
  · exact fun hcan => ⟨r, h, hcan⟩

/-! ### What is sent -/

/-- Errands that differ in secrets of clients, refresh tokens and codes alone. -/
inductive SameButSecrets : Errand τ → Errand τ → Prop
  | post {b b' : UrlBuilder τ} (h : b.SameButSecrets b') : SameButSecrets (.post b) (.post b')
  | validation (token : AccessToken) : SameButSecrets (.validation token) (.validation token)

/-- The request that a client sends on an errand. With other secrets it would be the same, or it
would go to the endpoint for tokens all the same and differ in its query alone. -/
structure SentAs (s : Settings) (c : Http.Client) (e : Errand τ) (r : Http.Request) : Prop where
  method : r.method = e.method
  url : ((Url.parse (e.endpoint s)).bind fun u => u.withParams e.params) = .ok r.url
  body : r.body = []
  made : ∃ request, e.request s = .ok request ∧ r = c.prepare request
  secrets : ∀ e' request', e.SameButSecrets e' → e'.request s = .ok request' →
    c.prepare request' = r ∨ (e.endpoint s = s.tokenUrl ∧ r.DiffersInQuery (c.prepare request'))

theorem sentAs {r : Http.Request} (h : e.request s = .ok r) (c : Http.Client) :
    e.SentAs s c (c.prepare r) := by
  obtain ⟨hmethod, -, hbody⟩ := Http.Request.make_parts h
  obtain ⟨hsame, hsameMethod, hsameBody⟩ := c.prepare_url r
  refine ⟨hsameMethod.trans (hmethod.trans e.upper_method), ?_, hsameBody.trans hbody,
    ⟨r, h, rfl⟩, ?_⟩
  · rw [hsame]
    exact Http.Request.make_url h
  · rintro _ r' (⟨hsecrets⟩ | token) h'
    · rename_i b b'
      obtain ⟨hendpoint, hparams | htoken⟩ := hsecrets.params s
      · have hrequest : (post b').request s = (post b).request s := by
          simp only [request, endpoint, params, hendpoint, hparams]
          rfl
        rw [hrequest, h] at h'
        cases h'
        exact .inl rfl
      · have hpost : Http.Request.post (b.endpoint s) b'.params = .ok r' := hendpoint ▸ h'
        exact .inr ⟨htoken, (Http.Request.post_differsInQuery b.params_ne_nil b'.params_ne_nil h
          hpost).prepare c⟩
    · rw [h] at h'
      cases h'
      exact .inl rfl

theorem SentAs.unique {r r' : Http.Request} (h : e.SentAs s c r) (h' : e.SentAs s c r') :
    r = r' := by
  obtain ⟨request, hmade, rfl⟩ := h.made
  obtain ⟨request', hmade', rfl⟩ := h'.made
  rw [hmade] at hmade'
  cases hmade'
  rfl

/-! ### Requests as errands -/

/-- What is made of the settings is the request of an errand, or nothing at all if there is none. -/
def Makes (s : Settings) (errand : Option (Errand τ)) (made : Except Escape Http.Request) : Prop :=
  ∀ r, made = .ok r ↔ ∃ e, errand = some e ∧ e.request s = .ok r

theorem makes_nothing (x : Escape) : Makes s (none : Option (Errand τ)) (.error x) :=
  fun r => by simp

theorem makes_post {made : Except Escape Http.Request} {b : UrlBuilder τ}
    (h : made = Endpoint.post (b.endpoint s) b.params) : Makes s (some (.post b)) made := by
  intro r
  rw [h, Endpoint.post, Flow.mapError_eq_ok_iff]
  simp only [Option.some.injEq, exists_eq_left']
  rfl

/-- Where nothing can be made, no request can be sent either. -/
theorem Makes.not_sendable {σ : Type} {w : World σ τ} {errand : Option (Errand τ)} {x : Escape}
    (h : Makes s errand (.error x)) (he : errand = some e) : ¬e.Sendable s w.client := by
  intro hsendable
  obtain ⟨r, hr, -⟩ := sendable_iff.1 hsendable
  cases (h r).2 ⟨e, he, hr⟩

/-- The errand of a validation. -/
def ofAccess (access : Option AccessToken) : Option (Errand τ) :=
  access.map .validation

theorem validation_makes (s : Settings) (access : Option AccessToken) :
    Makes s (ofAccess access : Option (Errand τ)) (Endpoint.validationRequest (.ok s) access) := by
  cases access with
  | none => exact makes_nothing _
  | some token =>
    intro r
    simp only [ofAccess, Option.map_some, Option.some.injEq, exists_eq_left']
    exact Flow.mapError_eq_ok_iff

/-- The errand of a revocation. -/
def ofRevocation (access : Option AccessToken) (client : Option ClientId) : Option (Errand τ) := do
  return .post (.revoke (← access) (← client))

theorem revocation_makes (s : Settings) (access : Option AccessToken) (client : Option ClientId) :
    Makes s (ofRevocation access client : Option (Errand τ))
      (Endpoint.revocationRequest (.ok s) access client) := by
  cases access <;> cases client <;> first
    | exact makes_nothing _
    | exact makes_post (UrlBuilder.revocationRequest_eq _)

/-- The errand of a refresh. -/
def ofRefresh (token : Option RefreshToken) (client : Option ClientId)
    (secret : Option ClientSecret) : Option (Errand τ) := do
  return .post (.refresh (← token) (← client) secret)

theorem refresh_makes (s : Settings) (token : Option RefreshToken) (client : Option ClientId)
    (secret : Option ClientSecret) :
    Makes s (ofRefresh token client secret : Option (Errand τ))
      (Endpoint.refreshRequest (.ok s) token client secret) := by
  cases token <;> cases client <;> first
    | exact makes_nothing _
    | exact makes_post (UrlBuilder.refreshRequest_eq _ _)

/-- The errand of asking for a token of the client's own. -/
def ofCredentials (client : Option ClientId) (secret : Option ClientSecret) (scopes : List Scope) :
    Option (Errand τ) := do
  return .post (.credentials (← client) (← secret) scopes)

theorem credentials_makes (s : Settings) (client : Option ClientId) (secret : Option ClientSecret)
    (scopes : List Scope) :
    Makes s (ofCredentials client secret scopes : Option (Errand τ))
      (Endpoint.credentialsRequest (.ok s) client secret scopes) := by
  cases client <;> cases secret <;> first
    | exact makes_nothing _
    | exact makes_post (UrlBuilder.credentialsRequest_eq _ _)

/-- The errand of asking for codes. -/
def ofStart (g : DeviceGrant τ) : Option (Errand τ) := do
  return .post (.start g (← g.clientId))

theorem start_makes (s : Settings) (g : DeviceGrant τ) :
    Makes s (ofStart g) (g.startRequest (.ok s)) := by
  unfold ofStart
  cases h : g.clientId with
  | none =>
    unfold DeviceGrant.startRequest DeviceGrant.startParams
    rw [h]
    exact makes_nothing _
  | some client => exact makes_post (UrlBuilder.startRequest_eq h)

/-- What a code is exchanged with. -/
def exchange? (g : BrowserGrant) (secret : Option ClientSecret) (code : String) :
    Option (UrlBuilder τ) := do
  return .exchange g (← g.clientId) (← secret) code

theorem exchange_makes (s : Settings) (g : BrowserGrant) (secret : Option ClientSecret)
    (code : String) :
    Makes s ((exchange? g secret code : Option (UrlBuilder τ)).map .post)
      (g.exchangeRequest (.ok s) secret code) := by
  unfold exchange?
  cases h : g.clientId with
  | none =>
    unfold BrowserGrant.exchangeRequest BrowserGrant.exchangeParams
    rw [h]
    exact makes_nothing _
  | some client =>
    cases secret with
    | none =>
      unfold BrowserGrant.exchangeRequest BrowserGrant.exchangeParams
      rw [h]
      exact makes_nothing _
    | some secret => exact makes_post (UrlBuilder.exchangeRequest_eq h secret code)

/-- What a device polls with. -/
def poll? (g : DeviceGrant τ) (codes : DeviceCodes) : Option (UrlBuilder τ) := do
  return .poll g (← g.clientId) codes

theorem poll_makes (s : Settings) (g : DeviceGrant τ) (codes : DeviceCodes) :
    Makes s ((poll? g codes).map .post) (g.pollRequest (.ok s) codes) := by
  unfold poll?
  cases h : g.clientId with
  | none =>
    unfold DeviceGrant.pollRequest DeviceGrant.pollParams
    rw [h]
    exact makes_nothing _
  | some client => exact makes_post (UrlBuilder.pollRequest_eq h codes)

end Errand

end Bearer
