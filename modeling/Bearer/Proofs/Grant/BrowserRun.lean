import Bearer.Grant.Implicit
import Bearer.Http.Script
import Bearer.Proofs.Flow.Cases
import Bearer.Proofs.Url.Parts

/-!
# Browser flows over a whole run

A browser flow is set up, sends users away and meets those who come back, in any order and any
number of times, while the world around it changes. The state that it accepts is the secret that was
written last, by a URL that was generated or by the caller. Who comes with another one, or with
none, is turned away before anything is sent, and whatever comes of those who are let in does not
change the state.

* `exchangeCode_ne_mismatch`, `acceptToken_ne_mismatch`: who is let in.
* `url_state`: the state in the query of a URL for the user.
* `remembers_step`, `remembers_after`: the secret that was written last is remembered.
* `gate_holds`: all of it in every state of every run.
-/
namespace Bearer

namespace BrowserGrant

variable {σ τ : Type} [Http.Server σ] {g : BrowserGrant} {w : World σ τ}

/-! ## Coming back -/

/-- Whoever is let in with a code may fail, but not because of the state. -/
theorem exchangeCode_ne_mismatch {state code : String} {secret : Option ClientSecret}
    {w' : World σ τ} {e : Failure CodeFault} (h : g.csrf = some ⟨state⟩)
    (hrun : g.exchangeCode secret (some state) code w = (.error e, w')) :
    e ≠ .fault .stateMismatch := by
  have hcheck : g.checkState (some state) = .ok true :=
    congrArg Except.ok (stateIsValid_iff.2 h)
  have hvalid : ∀ f, CodeFault.validation f ≠ .stateMismatch := fun _ => nofun
  have hcall : ∀ f, CodeFault.call f ≠ .stateMismatch := fun _ => nofun
  unfold exchangeCode at hrun
  rw [Flow.bind_ok (Flow.prepare_apply _ w |>.trans (by rw [hcheck]; rfl))] at hrun
  simp only [if_true] at hrun
  rcases Flow.bind_cases hrun with ⟨e, hmade, he⟩ | ⟨request, v, -, hrun⟩
  · cases he
    exact Flow.prepare_ne_fault hmade
  rcases Flow.bind_cases hrun with ⟨e, hanswer, he⟩ | ⟨answer, v, -, hrun⟩
  · cases he
    exact Flow.mapFault_ne_fault hcall hanswer
  rcases Flow.bind_cases hrun with ⟨e, htoken, he⟩ | ⟨token, v, -, hrun⟩
  · cases he
    exact Flow.mapFault_ne_fault hvalid htoken
  · cases hrun

theorem isAnsweredBy_iff {r : ImplicitRedirect} :
    g.isAnsweredBy r = true ↔ ∃ state, r.state = some state ∧ g.csrf = some ⟨state⟩ := by
  unfold isAnsweredBy
  cases r.state with
  | none => simp
  | some state => simp [stateIsValid_iff]

/-- So may whoever is let in with the token of a redirect. -/
theorem acceptToken_ne_mismatch {r : ImplicitRedirect} {w' : World σ τ} {e : Failure ImplicitFault}
    (h : g.isAnsweredBy r = true) (hrun : g.acceptToken r w = (.error e, w')) :
    e ≠ .fault .stateMismatch := by
  have hvalid : ∀ f, ImplicitFault.validation f ≠ .stateMismatch := fun _ => nofun
  unfold acceptToken at hrun
  rw [if_pos h] at hrun
  cases hacc : r.accessToken with
  | none =>
    rw [hacc] at hrun
    cases hrun
    nofun
  | some access =>
    rw [hacc] at hrun
    rcases Flow.bind_cases hrun with ⟨e, htoken, he⟩ | ⟨token, v, -, hrun⟩
    · cases he
      exact Flow.mapFault_ne_fault hvalid htoken
    · cases hrun

/-! ## Going away -/

omit [Http.Server σ] in
/-- Whether a URL is generated or not, the CSRF token that was made for it is remembered. -/
theorem generateUrl_snd {ε : Type} (bytes : List UInt8) (s : BrowserGrant × World σ τ) :
    ((generateUrl bytes : Flow _ ε _) s).2 = (s.1.setCsrf (some (Csrf.ofBytes bytes)), s.2) := by
  obtain ⟨g, w⟩ := s
  unfold generateUrl
  rw [Flow.bind_ok (Flow.held_apply _), Flow.bind_ok (Flow.hold_apply _ _), Flow.bind_apply,
    Flow.beside_apply, Flow.prepare_apply]
  cases g.url w.settings (Csrf.ofBytes bytes) <;> rfl

omit [Http.Server σ] in
/-- A URL that is generated is made with the CSRF token that is given with it and remembered. -/
theorem generateUrl_ok {ε : Type} {bytes : List UInt8} {s s' : BrowserGrant × World σ τ} {u : Url}
    {csrf : CsrfToken} (h : (generateUrl bytes : Flow _ ε _) s = (.ok (u, csrf), s')) :
    s.1.url s.2.settings csrf = .ok u ∧ s'.1.csrf = some csrf := by
  obtain ⟨hs', hcsrf⟩ := generateUrl_csrf h
  obtain ⟨g, w⟩ := s
  unfold generateUrl at h
  rw [Flow.bind_ok (Flow.held_apply _), Flow.bind_ok (Flow.hold_apply _ _)] at h
  rcases Flow.beside_cases h with ⟨e, he, -⟩ | ⟨v, t, hmade, h⟩
  · cases he
  · cases h
    rw [Flow.prepare_apply, Prod.mk.injEq, Flow.mapError_eq_ok_iff] at hmade
    exact ⟨hmade.1, congrArg BrowserGrant.csrf hs'⟩

/-- The state that is found in the query of a URL for the user. -/
theorem url_state {settings : Answer.Loaded} {csrf : CsrfToken} {v : Url}
    (h : g.url settings csrf = .ok v) :
    ∃ q, Url.queryIn v.text = some q ∧
      Url.Form.valuesOf (Url.Form.decode q.toList) "state" = [csrf.text] := by
  unfold url params at h
  rcases hclient : g.clientId with - | client
  · rw [hclient] at h
    cases h
  rw [hclient] at h
  rcases settings with e | s
  · cases h
  obtain ⟨u, hu, hv⟩ : ∃ u, Url.parse s.authUrl = .ok u ∧ u.withParams _ = .ok v := by
    have h := Flow.mapError_eq_ok_iff.1 h
    cases hu : Url.parse s.authUrl with
    | error e =>
      rw [hu] at h
      cases h
    | ok u =>
      rw [hu] at h
      exact ⟨u, rfl, h⟩
  obtain ⟨q, -, hq, harrive⟩ :=
    (Url.Extends.of_withParams (Url.parse_isRead hu) (by simp) (by simp) hv).query
  exact ⟨q, hq, harrive.given ("state", csrf.text) (by simp)⟩

end BrowserGrant

/-! ## Steps -/

open BrowserGrant

/-- What may happen to a browser flow. -/
inductive BrowserStep (σ τ : Type) where
  | setScopes (scopes : List Scope)
  | addScope (scope : Scope)
  | setForceVerify (force : Bool)
  /-- A URL for the user is generated with random bytes. -/
  | generateUrl (bytes : List UInt8)
  | setCsrf (csrf : CsrfToken)
  /-- It is asked whether a state is the one sent. -/
  | checkState (state : String)
  /-- A user comes back with a code. -/
  | exchangeCode (secret : Option ClientSecret) (state code : String)
  /-- A user comes back with a token, or with what went wrong. -/
  | acceptToken (r : ImplicitRedirect)
  /-- The world changes without it. -/
  | elsewhere (change : World σ τ → World σ τ)

namespace BrowserStep

variable {σ τ : Type} [Http.Server σ]

/-- Takes a step. -/
def run (s : BrowserGrant × World σ τ) : BrowserStep σ τ → BrowserGrant × World σ τ
  | .setScopes scopes => (s.1.setScopes scopes, s.2)
  | .addScope scope => (s.1.addScope scope, s.2)
  | .setForceVerify force => (s.1.setForceVerify force, s.2)
  | .generateUrl bytes => ((BrowserGrant.generateUrl bytes : Flow _ Empty _) s).2
  | .setCsrf csrf => (s.1.setCsrf (some csrf), s.2)
  | .checkState _ => s
  | .exchangeCode secret state code => (s.1, (s.1.exchangeCode secret (some state) code s.2).2)
  | .acceptToken r => (s.1, (s.1.acceptToken r s.2).2)
  | .elsewhere change => (s.1, change s.2)

/-- The CSRF token that a step writes. -/
def written? : BrowserStep σ τ → Option CsrfToken
  | .generateUrl bytes => some (Csrf.ofBytes bytes)
  | .setCsrf csrf => some csrf
  | _ => none

end BrowserStep

/-! ## Runs -/

/-- A browser flow in its world, and the CSRF token that was written last. -/
structure BrowserRun (σ τ : Type) where
  /-- The flow. -/
  grant : BrowserGrant
  /-- The world. -/
  world : World σ τ
  /-- The token. -/
  latest : Option CsrfToken := none

namespace BrowserRun

variable {σ τ : Type} [Http.Server σ]

/-- A run at its beginning. -/
def fresh (responseType : ResponseType) (clientId : Option ClientId) (redirectUrl : String)
    (w : World σ τ) : BrowserRun σ τ where
  grant := { responseType := responseType, clientId := clientId, redirectUrl := redirectUrl }
  world := w

/-- The run after one more step. -/
def step (r : BrowserRun σ τ) (a : BrowserStep σ τ) : BrowserRun σ τ where
  grant := (a.run (r.grant, r.world)).1
  world := (a.run (r.grant, r.world)).2
  latest := a.written? <|> r.latest

/-- The run after several steps. -/
def after (r : BrowserRun σ τ) (steps : List (BrowserStep σ τ)) : BrowserRun σ τ :=
  steps.foldl step r

/-- What a flow accepts, and what it does with everybody else. -/
structure Gate (r : BrowserRun σ τ) : Prop where
  /-- The state that is accepted is the secret of the token that was written last. -/
  accepts : ∀ state, r.grant.stateIsValid state = true ↔ r.latest = some ⟨state⟩
  /-- With another state nobody gets further, and nothing is done; with it everybody does. -/
  code : ∀ secret state code,
    (r.latest ≠ some ⟨state⟩ → r.grant.exchangeCode secret (some state) code r.world =
      (.error (.fault .stateMismatch), r.world)) ∧
    (r.latest = some ⟨state⟩ → (r.grant.exchangeCode secret (some state) code r.world).1 ≠
      .error (.fault .stateMismatch))
  /-- Nor with another state or none does anybody who brings a token. -/
  token : ∀ redirect : ImplicitRedirect,
    ((∀ state, redirect.state = some state → r.latest ≠ some ⟨state⟩) →
      r.grant.acceptToken redirect r.world = (.error (.fault .stateMismatch), r.world)) ∧
    (∀ state, redirect.state = some state → r.latest = some ⟨state⟩ →
      (r.grant.acceptToken redirect r.world).1 ≠ .error (.fault .stateMismatch))
  /-- Steps that write no token leave what is accepted as it is. -/
  keeps : ∀ a : BrowserStep σ τ, a.written? = none →
    ∀ state, (r.step a).grant.stateIsValid state = r.grant.stateIsValid state
  /-- The state in the query of a URL that is generated is accepted from then on, and no other. -/
  generated : ∀ (bytes : List UInt8) (u : Url) (csrf : CsrfToken) (s : BrowserGrant × World σ τ),
    (generateUrl bytes : Flow _ Empty _) (r.grant, r.world) = (.ok (u, csrf), s) →
      ∃ q, Url.queryIn u.text = some q ∧
        Url.Form.valuesOf (Url.Form.decode q.toList) "state" = [csrf.text] ∧
        ∀ state, s.1.stateIsValid state = true ↔ state = csrf.text

/-! ## Every run -/

variable {r : BrowserRun σ τ}

/-- The flow remembers the token that was written last. -/
def Remembers (r : BrowserRun σ τ) : Prop :=
  r.grant.csrf = r.latest

/-- Only a step that writes a token changes what is remembered. -/
theorem csrf_run (s : BrowserGrant × World σ τ) (a : BrowserStep σ τ) :
    (a.run s).1.csrf = (a.written? <|> s.1.csrf) := by
  cases a with
  | generateUrl bytes => exact congrArg (fun t => t.1.csrf) (generateUrl_snd bytes s)
  | _ => rfl

theorem remembers_step (h : r.Remembers) (a : BrowserStep σ τ) : (r.step a).Remembers := by
  have hrun := csrf_run (r.grant, r.world) a
  rw [Remembers] at h
  rw [h] at hrun
  exact hrun

theorem remembers_after (h : r.Remembers) (steps : List (BrowserStep σ τ)) :
    (r.after steps).Remembers := by
  induction steps generalizing r with
  | nil => exact h
  | cons a steps ih => exact ih (remembers_step h a)

theorem stateIsValid_congr {g g' : BrowserGrant} (h : g.csrf = g'.csrf) (state : String) :
    g.stateIsValid state = g'.stateIsValid state :=
  congrArg (Csrf.isValid · state) h

theorem Remembers.gate (h : r.Remembers) : r.Gate where
  accepts state := by
    rw [stateIsValid_iff, h]
  code secret state code := by
    rw [← h]
    exact ⟨fun hne => exchangeCode_mismatch hne secret code _,
      fun heq hfault => exchangeCode_ne_mismatch heq (Prod.ext hfault rfl) rfl⟩
  token redirect := by
    rw [← h]
    constructor
    · refine fun hne => acceptToken_mismatch (Bool.eq_false_iff.2 fun hanswered => ?_) _
      obtain ⟨state, hstate, hcsrf⟩ := isAnsweredBy_iff.1 hanswered
      exact hne state hstate hcsrf
    · intro state hstate hcsrf hfault
      have hanswered := isAnsweredBy_iff.2 ⟨state, hstate, hcsrf⟩
      exact acceptToken_ne_mismatch hanswered (Prod.ext hfault rfl) rfl
  keeps a ha state := by
    have hrun := csrf_run (r.grant, r.world) a
    rw [ha] at hrun
    exact stateIsValid_congr hrun state
  generated bytes u csrf s hrun := by
    obtain ⟨hurl, hcsrf⟩ := generateUrl_ok hrun
    obtain ⟨q, hq, hvalues⟩ := url_state hurl
    refine ⟨q, hq, hvalues, fun state => ?_⟩
    rw [stateIsValid_iff, hcsrf, Option.some.injEq]
    exact ⟨fun h => congrArg Credential.text h.symm, fun h => congrArg Credential.mk h.symm⟩

/-- The gate holds in every state of every run. -/
theorem gate_holds (responseType : ResponseType) (clientId : Option ClientId) (redirectUrl : String)
    (w : World σ τ) (steps : List (BrowserStep σ τ)) :
    ((fresh responseType clientId redirectUrl w).after steps).Gate :=
  (remembers_after (r := fresh responseType clientId redirectUrl w) rfl steps).gate

/-- A token that needs three kinds of escapes comes back from the URL, and whoever brings it is let
in. The token that was set before is accepted no more. -/
theorem gate_holds_generated :
    let bytes : List UInt8 := [0xfb, 0xff, 0xbe, 0xfb]
    let secret := "+/+++w=="
    let w : World Http.Script Int :=
      { server := ⟨[]⟩, client := .bare, settings := .ok {}, now := 0 }
    let steps : List (BrowserStep Http.Script Int) :=
      [.setScopes [⟨"chat:edit"⟩], .setCsrf ⟨"old"⟩]
    let r := (fresh .code (some ⟨"cid"⟩) "https://app" w).after steps
    let r' := (fresh .code (some ⟨"cid"⟩) "https://app" w).after (steps ++ [.generateUrl bytes])
    let query := "response_type=code&client_id=cid&redirect_uri=https%3A%2F%2Fapp&" ++
      "scope=chat%3Aedit&state=%2B%2F%2B%2B%2Bw%3D%3D&force_verify=false"
    let u : Url := ⟨"https", "", "id.twitch.tv", none, "/oauth2/authorize", some query, none⟩
    ∃ s, (generateUrl bytes : Flow _ Empty _) (r.grant, r.world) = (.ok (u, ⟨secret⟩), s) ∧
      (∃ q, Url.queryIn u.text = some q ∧
        Url.Form.valuesOf (Url.Form.decode q.toList) "state" = [secret]) ∧
      s.1.stateIsValid secret = true ∧ s.1.stateIsValid "old" = false ∧
      (r'.grant.exchangeCode none (some secret) "code" r'.world).1 ≠
        .error (.fault .stateMismatch) ∧
      r'.grant.exchangeCode none (some "old") "code" r'.world =
        (.error (.fault .stateMismatch), r'.world) := by
  intro bytes secret w steps r r' query u
  have hgenerated : ((generateUrl bytes : Flow _ Empty _) (r.grant, r.world)).1 =
      .ok (u, ⟨secret⟩) := by decide +kernel
  have hgate : r.Gate := gate_holds .code _ _ w steps
  have hgate' : r'.Gate := gate_holds .code _ _ w (steps ++ [.generateUrl bytes])
  obtain ⟨q, hq, hstate, haccepts⟩ := hgate.generated bytes u _ _ (Flow.ends_of_fst hgenerated)
  have hlatest : r'.latest = some ⟨secret⟩ := by decide +kernel
  refine ⟨_, Flow.ends_of_fst hgenerated, ⟨q, hq, hstate⟩, (haccepts secret).2 rfl, ?_,
    (hgate'.code none secret "code").2 hlatest, (hgate'.code none "old" "code").1 ?_⟩
  · exact Bool.eq_false_iff.2 fun h => absurd ((haccepts "old").1 h) (by decide)
  · rw [hlatest]
    decide

end BrowserRun

end Bearer
