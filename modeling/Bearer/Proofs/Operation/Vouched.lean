import Bearer.Http.Script
import Bearer.Proofs.Http.Requests
import Bearer.Proofs.Operation.Closed
import Mathlib.Control.Monad.Basic

/-!
# User tokens that the server vouches for

No user token comes out of a flow that the server has not vouched for. The last request shows the
access token of it to the server, and who the user is, what the token permits and how long it is
good for is what the server says in the answer, whatever was said of the token before. The
credentials in it are those that the caller gave, or those of the one answer that brought a token.

* `validate_ok`, `ofExisting_ok`: what it takes to validate a token.
* `pollWith_got`, `pollLoop_got`: what it takes for a device to get one.
* `vouched`: all operations that obtain user tokens.
-/
namespace Bearer

open World

variable {σ τ : Type} [Http.Server σ]

/-! ## Validation -/

/-- From `w` to `w'` one request alone is sent. It shows a token at the endpoint for that, and its
answer says what the server knows of the token: its body is an object in which the parts stand. -/
structure World.Shows (w : World σ τ) (token : AccessToken) (v : Validation) (w' : World σ τ) :
    Prop where
  shown : ∃ s r, w.settings = .ok s ∧ Exchanged [r] w w' ∧ r.method = "GET" ∧
    Url.parse s.validateUrl = .ok r.url ∧ r.body = [] ∧
    r.headers.value? "authorization" = some (w.client.shown r.url token) ∧
    ∃ a, w.client.receive r (Http.Server.reply w.server r).1 = .ok (.answer a) ∧
      Answer.read w.settings .validation a = .ok v ∧
      ∃ fields, Answer.IsObject a.body fields ∧ Payload.ValidationFields fields v

theorem World.Shows.quiet {w w' u : World σ τ} {token : AccessToken} {v : Validation}
    (h : w.Shows token v w') (h' : Exchanged [] w' u) : w.Shows token v u := by
  obtain ⟨s, r, hs, hex, hr⟩ := h.shown
  exact ⟨s, r, hs, hex.quiet h', hr⟩

/-- What is done without sending anything before does not count. -/
theorem World.Shows.after {w w' u : World σ τ} {token : AccessToken} {v : Validation}
    (h : w.Shows token v w') (h' : Exchanged [] u w) : u.Shows token v w' := by
  obtain ⟨s, r, hs, hex, hmethod, hurl, hbody, hshown, a, ha, hread, hsaid⟩ := h.shown
  rw [h'.settings] at hs hread
  rw [h'.client] at hshown ha
  rw [h'.server] at ha
  exact ⟨s, r, hs, by simpa using h'.trans hex, hmethod, hurl, hbody, hshown, a, ha, hread, hsaid⟩

namespace Endpoint

/-- What it takes to validate a token. -/
theorem validate_ok {access : Option AccessToken} {w w' : World σ τ} {v : Validation}
    (h : validate access w = (.ok v, w')) :
    ∃ token, access = some token ∧ w.Shows token v w' := by
  rcases Flow.bind_cases h with ⟨e, -, he⟩ | ⟨request, u, hmade, h⟩
  · cases he
  rw [Flow.prepare_apply, Prod.mk.injEq, Flow.mapError_eq_ok_iff] at hmade
  obtain ⟨hmade, rfl⟩ := hmade
  rcases Flow.bind_cases h with ⟨e, -, he⟩ | ⟨a, u, hsend, h⟩
  · cases he
  obtain ⟨hex, hanswer, -⟩ := Flow.send_ok (Flow.mapFault_eq_ok_iff.1 hsend)
  split at h
  · cases h
  rcases Flow.bind_cases h with ⟨e, -, he⟩ | ⟨validation, u', hread, hnote⟩
  · cases he
  obtain ⟨hread, rfl⟩ := Flow.accept_ok (Flow.mapFault_eq_ok_iff.1 hread)
  rw [hex.settings] at hread
  cases hnote
  unfold validationRequest at hmade
  rcases hs : w.settings with e | s
  · rw [hs] at hmade
    cases hmade
  rcases access with - | token
  · rw [hs] at hmade
    cases hmade
  rw [hs] at hmade
  obtain ⟨hmethod, hurl, hbody, hshown⟩ :=
    Http.Request.get_authorization (Flow.mapError_eq_ok_iff.1 hmade)
  obtain ⟨hsame, hsameMethod, hsameBody⟩ := w.client.prepare_url request
  refine ⟨token, rfl, s, w.client.prepare request, hs, hex.quiet (.logged _ _),
    hsameMethod.trans hmethod, hsame ▸ hurl, hsameBody.trans hbody, ?_, a, hanswer, hread,
    Answer.read_validation hread⟩
  rw [hsame]
  exact Http.Client.value?_prepare hshown w.client

end Endpoint

/-! ## User tokens -/

/-- A user token is made of an access token, of what goes with it, and of what the server knows of
it, at a reading of the clock. -/
structure UserToken.MadeOf (t : UserToken τ) (token : AccessToken) (spare : Option RefreshToken)
    (secret : Option ClientSecret) (v : Validation) (now : τ) : Prop where
  accessToken : t.accessToken = some token
  refreshToken : t.refreshToken = spare
  clientSecret : t.clientSecret = secret
  login : t.login = v.login ∧ v.login.isSome = true
  userId : t.userId = v.userId ∧ v.userId.isSome = true
  clientId : t.clientId = some v.clientId
  scopes : t.scopes = v.scopes.getD []
  lifetime : t.lifetime = ⟨v.expiresIn, now⟩

/-- What it takes for a token that is there to become a user token. -/
theorem UserToken.ofExisting_ok {access : Option AccessToken} {spare : Option RefreshToken}
    {secret : Option ClientSecret} {w w' : World σ τ} {t : UserToken τ}
    (h : ofExisting access spare secret w = (.ok t, w')) :
    ∃ token v, access = some token ∧ w.Shows token v w' ∧ t.MadeOf token spare secret v w'.now := by
  rcases Flow.bind_cases h with ⟨e, -, he⟩ | ⟨v, u, hvalidate, hassemble⟩
  · cases he
  obtain ⟨token, rfl, hshows⟩ := Endpoint.validate_ok hvalidate
  unfold assemble at hassemble
  rw [Flow.bind_ok (Flow.now_apply u)] at hassemble
  cases hmade : ofValidation? v (some token) spare secret u.now with
  | none =>
    rw [hmade] at hassemble
    cases hassemble
  | some t' =>
    rw [hmade] at hassemble
    cases hassemble
    obtain ⟨hlogin, huserId, hl, hu, ha, hr, hc, hs, hscopes, hlifetime⟩ :=
      ofValidation?_eq_some_iff.1 hmade
    exact ⟨token, v, rfl, hshows, ha, hr, hs, ⟨hl, hlogin⟩, ⟨hu, huserId⟩, hc, hscopes, hlifetime⟩

/-! ## Device flows -/

namespace DeviceGrant

/-- From `w` to `v` a request is sent over and over, and each time the user has not answered yet. -/
structure Pends (w : World σ τ) (request : Http.Request) (v : World σ τ) : Prop where
  refused : ∃ answers : List Http.Response,
    Exchanged (List.replicate answers.length (w.client.prepare request)) w v ∧
      w.handed (List.replicate answers.length (w.client.prepare request)) =
        answers.map (fun a => .ok (.answer a)) ∧
      ∀ a ∈ answers, Answer.Refuses a.body "authorization_pending"

theorem Pends.refl (w : World σ τ) (request : Http.Request) : Pends w request w :=
  ⟨[], .refl w, rfl, nofun⟩

/-- One more refusal in front. -/
theorem Pends.cons {w u v : World σ τ} {request : Http.Request} {a : Http.Response}
    (hex : Exchanged [w.client.prepare request] w u) (ha : w.answerTo request = .ok (.answer a))
    (hrefuses : Answer.Refuses a.body "authorization_pending") (h : Pends u request v) :
    Pends w request v := by
  obtain ⟨answers, hexs, hanswers, hrefused⟩ := h
  rw [hex.client] at hexs hanswers
  refine ⟨a :: answers, hex.trans hexs, ?_, List.forall_mem_cons.2 ⟨hrefuses, hrefused⟩⟩
  have hlist : List.replicate (a :: answers).length (w.client.prepare request) =
      [w.client.prepare request] ++ List.replicate answers.length (w.client.prepare request) := rfl
  rw [hlist, hex.handed_append, hanswers, handed_prepared, ha]
  rfl

/-- What it takes for a poll to bring a token. -/
theorem pollWith_got {g : DeviceGrant τ} {codes : DeviceCodes} {w w' : World σ τ} {t : UserToken τ}
    (h : g.pollWith codes w = (.ok (some t), w')) :
    ∃ request answer u v, g.pollRequest w.settings codes = .ok request ∧
      w.Brings request .token answer u ∧ u.Shows answer.accessToken v w' ∧
      t.MadeOf answer.accessToken answer.refreshToken g.clientSecret v w'.now := by
  obtain ⟨request, hmade, ⟨hnone, -⟩ | ⟨answer, u, t', ht, hask, htake⟩⟩ := pollWith_cases h
  · cases hnone
  cases ht
  rcases askAnswer_ok_iff.1 hask with ⟨answer', hsome, hcall⟩ | ⟨hnone, -⟩
  · cases hsome
    rcases Flow.bind_cases htake with ⟨e, -, he⟩ | ⟨t', u', htoken, hnote⟩
    · cases he
    obtain ⟨token, v, hsome, hshows, hmadeOf⟩ :=
      UserToken.ofExisting_ok (Flow.mapFault_eq_ok_iff.1 htoken)
    cases hsome
    cases hnote
    exact ⟨request, answer, u, v, hmade, Flow.call_ok hcall, hshows.quiet (.logged _ _), hmadeOf⟩
  · cases hnone

/-- What it takes for a wait to bring one: any number of polls that were pending, and one that was
not. -/
theorem pollLoop_got [Time.Clock τ] {g : DeviceGrant τ} {codes : DeviceCodes}
    (sleeper : Sleeper σ τ) {interval deadline : τ} {limit : Nat} {w w' : World σ τ} {t : UserToken τ}
    (h : g.pollLoop codes sleeper.sleep interval deadline limit w = (.ok t, w')) :
    ∃ request p answer u v, g.pollRequest w.settings codes = .ok request ∧ Pends w request p ∧
      p.Brings request .token answer u ∧ u.Shows answer.accessToken v w' ∧
      t.MadeOf answer.accessToken answer.refreshToken g.clientSecret v w'.now := by
  induction limit generalizing w with
  | zero => cases h
  | succ limit ih =>
    rcases pollLoop_cases h with ⟨e, -, he⟩ | ⟨t', hpoll, ht⟩ | ⟨u, hpoll, hrest⟩
    · cases he
    · cases ht
      obtain ⟨request, answer, u', v, hmade, hgot⟩ := pollWith_got hpoll
      exact ⟨request, w, answer, u', v, hmade, .refl w request, hgot⟩
    · obtain ⟨request, a, hmade, hsend, hrefuses⟩ := pollWith_none_iff.1 hpoll
      obtain ⟨hex, ha, -⟩ := Flow.send_ok hsend
      rcases hrest with ⟨-, e, he⟩ | ⟨u', hquiet, h⟩
      · cases he
      have hex := hex.quiet hquiet
      obtain ⟨request', p, answer, u'', v, hmade', hpends, hgot⟩ := ih h
      -- the settings are the same all the time, and so is the request
      rw [hex.settings, hmade] at hmade'
      cases hmade'
      exact ⟨request, p, answer, u'', v, hmade, hpends.cons hex ha hrefuses, hgot⟩

end DeviceGrant

/-! ## All operations -/

namespace Operation

/-- Where an operation takes the credentials for a user token from: the caller, or the one answer
that brought a token. What follows then goes on from `u`. -/
inductive TakesFrom (w : World σ τ) : Operation σ τ → AccessToken → Option RefreshToken →
    Option ClientSecret → (u : World σ τ) → Prop
  | existing (token : AccessToken) (spare : Option RefreshToken) (secret : Option ClientSecret) :
    TakesFrom w (.existingUser (some token) spare secret) token spare secret w
  | redirect (g : BrowserGrant) {r : ImplicitRedirect} {token : AccessToken}
      (h : r.accessToken = some token) : TakesFrom w (.acceptToken g r) token none none w
  | code {g : BrowserGrant} {secret : Option ClientSecret} {code : String} {request : Http.Request}
      {answer : TokenAnswer} {u : World σ τ} (state : Option String)
      (made : g.exchangeRequest w.settings secret code = .ok request)
      (brings : w.BringsToken request answer u) :
    TakesFrom w (.exchangeCode g secret state code) answer.accessToken answer.refreshToken secret u
  | poll {g : DeviceGrant τ} {codes : DeviceCodes} {request : Http.Request} {answer : TokenAnswer}
      {u : World σ τ} (started : g.codes = some codes)
      (made : g.pollRequest w.settings codes = .ok request)
      (brings : w.BringsToken request answer u) :
    TakesFrom w (.poll g) answer.accessToken answer.refreshToken g.clientSecret u
  /-- All polls before the one that brought a token were pending. -/
  | wait {g : DeviceGrant τ} {codes : DeviceCodes} {request : Http.Request} {answer : TokenAnswer}
      {p u : World σ τ} (sleeper : Sleeper σ τ) (limit : Nat) (started : g.codes = some codes)
      (made : g.pollRequest w.settings codes = .ok request)
      (pends : DeviceGrant.Pends w request p) (brings : p.BringsToken request answer u) :
    TakesFrom w (.wait g sleeper limit) answer.accessToken answer.refreshToken g.clientSecret u

variable {w w' : World σ τ} {t : UserToken τ}

/-- A user token that an operation obtains is made of credentials that it takes and of what the
server knows of the access token when it is shown to it last. -/
def Vouched (op : Operation σ τ) (w : World σ τ) (t : UserToken τ) (w' : World σ τ) : Prop :=
  ∃ token spare secret u v, op.TakesFrom w token spare secret u ∧ u.Shows token v w' ∧
    t.MadeOf token spare secret v w'.now

theorem existingUser_vouched {access : Option AccessToken} {spare : Option RefreshToken}
    {secret : Option ClientSecret} (h : UserToken.ofExisting access spare secret w = (.ok t, w')) :
    (existingUser access spare secret).Vouched w t w' := by
  obtain ⟨token, v, rfl, hshows, hmade⟩ := UserToken.ofExisting_ok h
  exact ⟨token, spare, secret, w, v, .existing token spare secret, hshows, hmade⟩

theorem exchangeCode_vouched {g : BrowserGrant} {secret : Option ClientSecret}
    {state : Option String} {code : String} (h : g.exchangeCode secret state code w = (.ok t, w')) :
    (exchangeCode g secret state code).Vouched w t w' := by
  rcases Flow.bind_cases h with ⟨e, -, he⟩ | ⟨isValid, u, hcheck, h⟩
  · cases he
  rw [Flow.prepare_apply, Prod.mk.injEq] at hcheck
  obtain ⟨-, rfl⟩ := hcheck
  cases isValid with
  | false => cases h
  | true =>
    obtain ⟨request, answer, u, hmade, hbrings, h⟩ := Flow.ask_ok h
    rcases Flow.bind_cases h with ⟨e, -, he⟩ | ⟨t', u', htoken, hnote⟩
    · cases he
    obtain ⟨token, v, hsome, hshows, hof⟩ :=
      UserToken.ofExisting_ok (Flow.mapFault_eq_ok_iff.1 htoken)
    cases hsome
    cases hnote
    exact ⟨_, _, _, u, v, .code state hmade hbrings.token, hshows.quiet (.logged _ _), hof⟩

theorem acceptToken_vouched {g : BrowserGrant} {r : ImplicitRedirect}
    (h : g.acceptToken r w = (.ok t, w')) : (acceptToken g r).Vouched w t w' := by
  unfold BrowserGrant.acceptToken at h
  split at h
  · cases hr : r.accessToken with
    | none =>
      rw [hr] at h
      cases h
    | some access =>
      rw [hr] at h
      rcases Flow.bind_cases h with ⟨e, -, he⟩ | ⟨t', u', htoken, hnote⟩
      · cases he
      obtain ⟨token, v, hsome, hshows, hof⟩ :=
        UserToken.ofExisting_ok (Flow.mapFault_eq_ok_iff.1 htoken)
      cases hsome
      cases hnote
      exact ⟨_, _, _, w, v, .redirect g hr, hshows.quiet (.logged _ _), hof⟩
  · cases h

theorem poll_vouched {g : DeviceGrant τ}
    (h : Flow.holding g DeviceGrant.poll w = (.ok (some t), w')) : (poll g).Vouched w t w' := by
  rw [DeviceGrant.holding_poll] at h
  cases hcodes : g.codes with
  | none =>
    simp only [hcodes] at h
    cases h
  | some codes =>
    simp only [hcodes] at h
    obtain ⟨request, answer, u, v, hmade, hbrings, hshows, hof⟩ := DeviceGrant.pollWith_got h
    exact ⟨_, _, _, u, v, .poll hcodes hmade hbrings.token, hshows, hof⟩

theorem wait_vouched [Time.Clock τ] {g : DeviceGrant τ} {sleeper : Sleeper σ τ} {limit : Nat}
    (h : Flow.holding g (DeviceGrant.waitWith sleeper.sleep limit) w = (.ok t, w')) :
    (wait g sleeper limit).Vouched w t w' := by
  rw [DeviceGrant.holding_waitWith] at h
  cases hcodes : g.codes with
  | none =>
    simp only [hcodes] at h
    cases h
  | some codes =>
    cases htime : g.startedAt with
    | none =>
      simp only [hcodes, htime] at h
      cases h
    | some time =>
      simp only [hcodes, htime] at h
      obtain ⟨request, p, answer, u, v, hmade, hpends, hbrings, hshows, hof⟩ :=
        DeviceGrant.pollLoop_got sleeper h
      exact ⟨_, _, _, u, v, .wait sleeper limit hcodes hmade hpends hbrings.token, hshows, hof⟩

/-- Every user token that is obtained is vouched for. Only a refresh brings one without asking. -/
theorem vouched [Time.Clock τ] {op : Operation σ τ} (hop : ∀ t, op ≠ .renew t)
    (h : op.run w = (.ok (.token (.user t)), w')) : op.Vouched w t w' := by
  cases op with
  | validate | revoke | refresh | obtain | existingApp | start =>
    obtain ⟨_, -, h⟩ := Flow.seenAs_ok h
    cases h
  | existingUser =>
    obtain ⟨_, h, ht⟩ := Flow.seenAs_ok h
    cases ht
    exact existingUser_vouched h
  | exchangeCode =>
    obtain ⟨_, h, ht⟩ := Flow.seenAs_ok h
    cases ht
    exact exchangeCode_vouched h
  | acceptToken =>
    obtain ⟨_, h, ht⟩ := Flow.seenAs_ok h
    cases ht
    exact acceptToken_vouched h
  | poll =>
    obtain ⟨out, h, ht⟩ := Flow.seenAs_ok h
    cases out with
    | none => cases ht
    | some _ =>
      cases ht
      exact poll_vouched h
  | wait =>
    obtain ⟨_, h, ht⟩ := Flow.seenAs_ok h
    cases ht
    exact wait_vouched h
  | renew t => exact absurd rfl (hop t)

/-- A code that is exchanged for a token, of which the server knows more than it said with it. -/
theorem vouched_code :
    let token := Text.Utf8.encode
      "\x7b\x22access_token\x22:\x22tok\x22,\x22scope\x22:[\x22a\x22],\x22expires_in\x22:1\x7d".toList
    let validation := Text.Utf8.encode
      "\x7b\x22client_id\x22:\x22other\x22,\x22login\x22:\x22joe\x22,\x22user_id\x22:\x227\x22\x7d".toList
    let w : World Http.Script Int :=
      { server := ⟨[("/oauth2/token", [.answer ⟨200, [], token⟩]),
          ("/oauth2/validate", [.answer ⟨200, [], validation⟩])]⟩
        client := .bare, settings := .ok {}, now := 5 }
    let g : BrowserGrant :=
      { responseType := .code, clientId := some ⟨"cid"⟩, redirectUrl := "https://app"
        csrf := some ⟨"s"⟩ }
    let op : Operation Http.Script Int := .exchangeCode g (some ⟨"key"⟩) (some "s") "code"
    let t : UserToken Int := ⟨some ⟨"tok"⟩, none, some ⟨"other"⟩, some ⟨"key"⟩, some "joe", some "7",
      [], ⟨none, 5⟩⟩
    (∀ t, op ≠ .renew t) ∧ ∃ w', op.run w = (.ok (.token (.user t)), w') ∧ op.Vouched w t w' := by
  intro token validation w g op t
  have hrun : (op.run w).1 = .ok (.token (.user t)) := by decide +kernel
  have hop : ∀ t, op ≠ .renew t := by simp [op]
  obtain ⟨w', hrun⟩ : ∃ w', op.run w = (_, w') := ⟨_, Flow.ends_of_fst hrun⟩
  exact ⟨hop, w', hrun, vouched hop hrun⟩

/-- What is sent does not always show the token: here the URL to validate it at has credentials. -/
theorem not_shown_credentials :
    ¬∀ (w w' : World Http.Script Int) (token : AccessToken) (t : UserToken Int),
      (existingUser (some token) none none).run w = (.ok (.token (.user t)), w') →
        (w'.sent.toList.getLast?.bind fun r => r.headers.value? "authorization") =
          some ("OAuth " ++ token.text) := by
  intro h
  let validation := Text.Utf8.encode
    "\x7b\x22client_id\x22:\x22cid\x22,\x22login\x22:\x22joe\x22,\x22user_id\x22:\x227\x22\x7d".toList
  let settings : Settings :=
    { validateOverride := some "https://user:pw@id.twitch.tv/oauth2/validate" }
  let w : World Http.Script Int :=
    { server := ⟨[("/oauth2/validate", [.answer ⟨200, [], validation⟩])]⟩
      client := .bare, settings := .ok settings, now := 0 }
  have hrun : ((existingUser (some ⟨"tok"⟩) none none).run w).1 = .ok (.token (.user ⟨some ⟨"tok"⟩,
      none, some ⟨"cid"⟩, none, some "joe", some "7", [], ⟨none, 0⟩⟩)) := by
    decide +kernel
  have hshown := h w _ ⟨"tok"⟩ _ (Flow.ends_of_fst hrun)
  revert hshown
  decide +kernel

end Operation

end Bearer
