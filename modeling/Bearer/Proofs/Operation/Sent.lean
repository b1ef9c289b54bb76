import Bearer.Http.Script
import Bearer.Proofs.Operation.Contained
import Bearer.Proofs.Operation.Plans
import Mathlib.Control.Monad.Basic

/-!
# What operations send

Every operation has a plan, made of its inputs alone. Whatever the server answers, what is sent is
what the plan says: nothing is sent again but a poll that was pending, nothing is sent elsewhere,
and nothing behind an answer that brought no token.

* `exchangeCode_follows`, `pollWith_follows`: flows that ask for a token once.
* `pollLoop_follows`: polls over and over.
* `follows_plan`: all operations.
-/
namespace Bearer

open World Bearer.Flow Errand

variable {σ τ ε δ α β : Type} [Http.Server σ] {s : Settings}

/-! ## Browser flows -/

namespace BrowserGrant

/-- A state that a redirect gives back is the one that was sent. -/
def expects (g : BrowserGrant) : Option String → Bool
  | some state => g.csrf = some ⟨state⟩
  | none => false

theorem expects_eq_stateIsValid (g : BrowserGrant) (state : String) :
    g.expects (some state) = g.stateIsValid state := by
  rw [Bool.eq_iff_iff, stateIsValid_iff]
  simp [expects]

/-- The errand of a redirect that brings a token. -/
def redirectErrand (g : BrowserGrant) (r : ImplicitRedirect) : Option (Errand τ) :=
  if g.expects r.state then ofAccess r.accessToken else none

theorem acceptToken_follows (g : BrowserGrant) (r : ImplicitRedirect) :
    Follows s (.errand (g.redirectErrand r))
      (g.acceptToken r : Flow (World σ τ) ImplicitFault (UserToken τ)) := by
  have hanswered : g.isAnsweredBy r = g.expects r.state := by
    unfold isAnsweredBy
    cases r.state with
    | none => rfl
    | some state => exact (g.expects_eq_stateIsValid state).symm
  unfold acceptToken redirectErrand
  rw [hanswered]
  cases g.expects r.state with
  | false => exact follows_nothing fun w => .refl w
  | true =>
    cases r.accessToken with
    | none => exact follows_nothing fun w => .refl w
    | some token =>
      exact Follows.bind ((UserToken.ofExisting_follows (some token) _ _).mapFault _) fun _ v =>
        .logged v _

/-- What a code that a redirect brings is exchanged with. -/
def redirectExchange (g : BrowserGrant) (secret : Option ClientSecret) (state : Option String)
    (code : String) : Option (UrlBuilder τ) :=
  if g.expects state then exchange? g secret code else none

theorem exchangeCode_follows (g : BrowserGrant) (secret : Option ClientSecret)
    (state : Option String) (code : String) :
    Follows s (.token (g.redirectExchange secret state code) false)
      (g.exchangeCode secret state code : Flow (World σ τ) CodeFault (UserToken τ)) := by
  have hchecked : g.checkState state = .ok (g.expects state) ∨
      g.expects state = false ∧ ∃ x, g.checkState state = .error x := by
    cases state with
    | some state => exact .inl (by rw [expects_eq_stateIsValid]; rfl)
    | none =>
      unfold checkState
      cases g.csrf with
      | some csrf => exact .inr ⟨rfl, _, rfl⟩
      | none => exact .inl rfl
  unfold exchangeCode redirectExchange
  rcases hchecked with hcheck | ⟨hexpects, x, hcheck⟩
  · intro w hs
    rw [bind_ok (prepare_ok hcheck)]
    cases g.expects state with
    | false => exact follows_no_token false (fun w => .refl w) w hs
    | true =>
      refine follows_token (exchange_makes s g secret code)
        (fun answer => UserToken.ofExisting_follows (some answer.accessToken) answer.refreshToken
          secret) (fun r w answer v hcall => ?_) (fun r w e v hcall => ?_) false w hs
      · rw [bind_ok (mapFault_eq_ok_iff.2 hcall)]
        refine bind_exchanged ?_ fun _ v => .logged v _
        rw [mapFault_apply]
        exact .refl _
      · rw [bind_error (mapFault_eq _ hcall)]
        exact .refl v
  · intro w hs
    rw [bind_error (prepare_error hcheck), hexpects]
    exact ⟨[], .refl w, .nothing fun _ he => nomatch he⟩

end BrowserGrant

/-! ## Device flows -/

namespace DeviceGrant

theorem askCodes_follows (g : DeviceGrant τ) :
    Follows s (.errand (ofStart g)) (g.askCodes : Flow (World σ τ) DeviceFault DeviceCodes) :=
  follows_errand (start_makes s g) fun r v => call_quietly (fun _ u => .logged u _) r v

/-- What a poll takes for its answer is what the call brings. -/
theorem askAnswer_of_ok {request : Http.Request} {w v : World σ τ} {answer : TokenAnswer}
    (h : call request .token w = (.ok answer, v)) :
    askAnswer request w = (.ok (some answer), v) :=
  askAnswer_ok_iff.2 (.inl ⟨answer, rfl, h⟩)

omit [Http.Server σ] in
theorem pollFault_world (f : CallFault) (w : World σ τ) : (pollFault f w).2 = w := by
  unfold pollFault
  split
  · split <;> rfl
  · rfl

theorem askAnswer_of_error {request : Http.Request} {w v : World σ τ} {e : Failure CallFault}
    (h : call request .token w = (.error e, v)) :
    (askAnswer request w).2 = v ∧ ∀ answer, (askAnswer request w).1 ≠ .ok (some answer) := by
  constructor
  · unfold askAnswer Flow.handle
    rw [bind_error h]
    cases e with
    | escape x => rfl
    | fault f => exact pollFault_world f v
  · intro answer hok
    rcases askAnswer_ok_iff.1 (ends_of_fst hok) with ⟨answer', -, hcall⟩ | ⟨hnone, -⟩
    · rw [h] at hcall
      cases hcall
    · cases hnone

theorem takeToken_follows (g : DeviceGrant τ) (answer : TokenAnswer) :
    Follows s (.errand (some (.validation answer.accessToken)))
      (g.takeToken answer : Flow (World σ τ) DeviceFault (Option (UserToken τ))) :=
  Follows.bind ((UserToken.ofExisting_follows (some answer.accessToken) _ _).mapFault _) fun _ v =>
    .logged v _

theorem pollWith_follows (g : DeviceGrant τ) (codes : DeviceCodes) (again : Bool) :
    Follows s (.token (poll? g codes) again)
      (g.pollWith codes : Flow (World σ τ) DeviceFault (Option (UserToken τ))) := by
  refine follows_token (poll_makes s g codes) (g.takeToken_follows ·)
    (fun r w answer v hcall => ?_) (fun r w e v hcall => ?_) again
  · rw [bind_ok (askAnswer_of_ok hcall)]
    exact .refl _
  · obtain ⟨hv, hne⟩ := askAnswer_of_error hcall
    rcases hask : askAnswer r w with ⟨e' | (_ | answer), u⟩ <;> rw [hask] at hv hne <;> cases hv
    · rw [bind_error hask]
      exact .refl _
    · rw [bind_ok hask]
      exact .refl _
    · exact absurd rfl (hne answer)

/-- Each poll is the first one over again: the settings are the same all the time, and so is the
request. -/
theorem pollLoop_follows [Time.Clock τ] (g : DeviceGrant τ) (codes : DeviceCodes)
    (sleeper : Sleeper σ τ) (interval deadline : τ) {limit : Nat} (hlimit : limit ≠ 0) :
    Follows s (.token (poll? g codes) true)
      (g.pollLoop codes sleeper.sleep interval deadline limit) := by
  induction limit with
  | zero => exact absurd rfl hlimit
  | succ limit ih =>
    intro w hs
    have hfirst := pollWith_follows g codes true w hs
    rcases pollLoop_cases (Prod.eta (g.pollLoop codes sleeper.sleep interval deadline (limit + 1)
      w)).symm with ⟨e, hpoll, -⟩ | ⟨token, hpoll, -⟩ | ⟨u, hpoll, hrest⟩ <;> rw [hpoll] at hfirst
    · exact hfirst
    · exact hfirst
    · obtain ⟨rs, hex, hsends⟩ := hfirst
      rcases hrest with ⟨hquiet, -⟩ | ⟨v, hquiet, h⟩
      · exact ⟨rs, hex.quiet hquiet, hsends⟩
      · by_cases hzero : limit = 0
        · subst hzero
          have hend : v = _ := congrArg Prod.snd h
          rw [← hend]
          exact ⟨rs, hex.quiet hquiet, hsends⟩
        · obtain ⟨request, a, hmade, hsend, hrefuses⟩ := pollWith_none_iff.1 hpoll
          obtain ⟨hex, ha, -⟩ := send_ok hsend
          have hex := hex.quiet hquiet
          obtain ⟨rs, hex', hsends⟩ := ih hzero v (hex.settings.trans hs)
          rw [h] at hex'
          rw [hs] at hmade
          obtain ⟨e, he, hr⟩ := (poll_makes s g codes request).1 hmade
          obtain ⟨b, hb, rfl⟩ := Option.map_eq_some_iff.1 he
          have hcan := (sendable_iff_canSend hr).2 (send_ok_iff.1 ⟨u, hsend⟩).1
          refine ⟨_, hex.trans hex', ?_⟩
          simp only [Plan.Sends, hb] at hsends ⊢
          exact hsends.cons hex hcan (sentAs hr w.client) (by rw [handed_prepared, ha]) hrefuses

end DeviceGrant

/-! ## All operations -/

namespace Operation

/-- What an operation means to send. -/
def plan : Operation σ τ → Plan τ
  | .validate access | .existingApp access _ _ | .existingUser access _ _ =>
    .errand (ofAccess access)
  | .revoke access client => .errand (ofRevocation access client)
  | .refresh token client secret => .errand (ofRefresh token client secret)
  | .obtain client secret scopes => .errand (ofCredentials client secret scopes)
  | .renew t => .errand (ofToken t)
  | .exchangeCode g secret state code => .token (g.redirectExchange secret state code) false
  | .acceptToken g r => .errand (g.redirectErrand r)
  | .start g => .errand (if g.codes.isSome then none else ofStart g)
  | .poll g => .token (g.codes.bind (poll? g)) false
  | .wait g _ limit =>
    .token (if g.startedAt.isSome ∧ limit ≠ 0 then g.codes.bind (poll? g) else none) true

theorem start_follows (g : DeviceGrant τ) :
    Follows s (plan (.start g : Operation σ τ))
      (Flow.holding g (DeviceGrant.start : Flow (DeviceGrant τ × World σ τ) _ _)) := by
  rw [DeviceGrant.holding_start, plan]
  cases g.codes with
  | some codes => exact follows_nothing fun w => .refl w
  | none => exact g.askCodes_follows

theorem poll_follows (g : DeviceGrant τ) :
    Follows s (plan (.poll g : Operation σ τ))
      (Flow.holding g (DeviceGrant.poll : Flow (DeviceGrant τ × World σ τ) _ _)) := by
  rw [DeviceGrant.holding_poll, plan]
  cases g.codes with
  | none => exact follows_no_token false fun w => .refl w
  | some codes => exact g.pollWith_follows codes false

variable [Time.Clock τ]

theorem wait_follows (g : DeviceGrant τ) (sleeper : Sleeper σ τ) (limit : Nat) :
    Follows s (plan (.wait g sleeper limit))
      (Flow.holding g (DeviceGrant.waitWith sleeper.sleep limit)) := by
  rw [DeviceGrant.holding_waitWith, plan]
  have hidle : Follows s (.token none true)
      (fail .notStarted : Flow (World σ τ) DeviceFault (UserToken τ)) :=
    follows_no_token true fun w => .refl w
  cases g.codes with
  | none =>
    rw [Option.bind_none, ite_self]
    exact hidle
  | some codes =>
    cases g.startedAt with
    | none => exact hidle
    | some startedAt =>
      by_cases hlimit : limit = 0
      · rw [if_neg fun h => h.2 hlimit, hlimit]
        exact follows_no_token true (f := escape .unfinished) fun w => .refl w
      · simp only [Option.isSome_some, ne_eq, hlimit, not_false_eq_true, and_self, if_true,
          Option.bind_some]
        exact g.pollLoop_follows codes sleeper _ _ hlimit

/-- Every operation sends what its plan says, whatever the server answers. -/
theorem follows_plan (op : Operation σ τ) {w : World σ τ} (hs : w.settings = .ok s) :
    ∃ rs, Exchanged rs w (op.run w).2 ∧ op.plan.Sends s w rs := by
  have hfollows : Follows s op.plan op.run := by
    cases op with
    | validate access => exact (Endpoint.validate_follows access).seenAs _ _
    | revoke access client => exact (Endpoint.revoke_follows access client).seenAs _ _
    | refresh token client secret => exact (Endpoint.refresh_follows token client secret).seenAs _ _
    | obtain client secret scopes => exact (AppToken.obtain_follows client secret scopes).seenAs _ _
    | existingApp access spare secret =>
      exact (AppToken.ofExisting_follows access spare secret).seenAs _ _
    | existingUser access spare secret =>
      exact (UserToken.ofExisting_follows access spare secret).seenAs _ _
    | exchangeCode g secret state code =>
      exact (g.exchangeCode_follows secret state code).seenAs _ _
    | acceptToken g r => exact (g.acceptToken_follows r).seenAs _ _
    | start g => exact (start_follows g).seenAs _ _
    | poll g => exact (poll_follows g).seenAs _ _
    | wait g sleeper limit => exact (wait_follows g sleeper limit).seenAs _ _
    | renew t =>
      rw [run, Token.holding_refresh]
      exact t.refreshed_follows.seenAs _ _
  exact hfollows w hs

/-- A poll that is pending is sent again, and the token that the next one brings is validated. -/
theorem follows_plan_wait :
    let pending := Text.Utf8.encode
      "\x7b\x22status\x22:400,\x22message\x22:\x22authorization_pending\x22\x7d".toList
    let token := Text.Utf8.encode "\x7b\x22access_token\x22:\x22tok\x22\x7d".toList
    let w : World Http.Script Int :=
      { server := ⟨[("/oauth2/token", [.answer ⟨400, [], pending⟩, .answer ⟨200, [], token⟩])]⟩
        client := .bare, settings := .ok {}, now := 0 }
    let sleeper : Sleeper Http.Script Int :=
      ⟨Flow.sleep, fun _ _ => ⟨(List.append_nil _).symm, rfl, rfl, rfl⟩⟩
    let g : DeviceGrant Int :=
      { clientId := some ⟨"cid"⟩, scopes := [], clientSecret := some ⟨"key"⟩
        codes := some ⟨"code", ⟨1800000000, by decide, by decide⟩, ⟨5000000, by decide, by decide⟩,
          "USER", "https://id.tv"⟩
        startedAt := some 0 }
    let op : Operation Http.Script Int := .wait g sleeper 9
    w.settings = .ok {} ∧ ∃ rs, Exchanged rs w (op.run w).2 ∧ op.plan.Sends {} w rs ∧
      rs.map (fun r => (r.method, r.url.path)) =
        [("POST", "/oauth2/token"), ("POST", "/oauth2/token"), ("GET", "/oauth2/validate")] := by
  intro pending token w sleeper g op
  obtain ⟨rs, hex, hsends⟩ := follows_plan op (w := w) rfl
  refine ⟨rfl, rs, hex, hsends, ?_⟩
  rw [← List.nil_append rs, ← show w.sent.toList = [] from rfl, ← hex.sent]
  decide +kernel

/-- What is to be sent is not always sent: here the client calls itself what no header field can
hold. -/
theorem not_sent_name :
    ¬∀ (s : Settings) (w : World Http.Script Int) (token : AccessToken),
      w.settings = .ok s → Endpoint.Takes s.validateUrl [] → Text.isAscii token.text = true →
        ∃ r, Exchanged [r] w ((validate (some token)).run w).2 := by
  intro h
  let w : World Http.Script Int :=
    { server := ⟨[]⟩, client := .agent "é", settings := .ok {}, now := 0 }
  obtain ⟨r, hex⟩ := h {} w ⟨"tok"⟩ rfl takes_validate (by decide)
  have hnone : ((validate (some ⟨"tok"⟩)).run w).2.sent.toList = [] := by decide +kernel
  have hsent := hex.sent
  rw [hnone] at hsent
  cases hsent

end Operation

end Bearer
