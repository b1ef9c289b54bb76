import Bearer.Proofs.Operation.Closed
import Bearer.Proofs.Operation.Errands

/-!
# Plans of what is sent

A flow goes on one errand at most, or it asks for a token and, as soon as an answer brings one,
shows that token to be validated. It follows such a plan if it sends just what the plan says,
whatever the server answers. What is done quietly with an answer does not count.

* `follows_errand`: flows that go on one errand.
* `follows_token`: flows that ask for a token once.
* `validate_follows`, `refreshed_follows`: the endpoints and tokens.
-/
namespace Bearer

open World

variable {σ τ ε δ α β : Type} [Http.Server σ]

/-! ## Plans -/

/-- The requests that are sent for an errand, if there is one: its request alone, or none at all if
that cannot be sent. -/
inductive Errand.Sends (s : Settings) (c : Http.Client) (errand : Option (Errand τ)) :
    List Http.Request → Prop
  | one {e : Errand τ} {r : Http.Request} (is : errand = some e) (can : e.Sendable s c)
    (sent : e.SentAs s c r) : Sends s c errand [r]
  | nothing (cannot : ∀ e, errand = some e → ¬e.Sendable s c) : Sends s c errand []

/-- The requests that are sent behind what was handed over for the last one. The token that it
brings is shown, and if it brings none there are none. -/
inductive Errand.SendsBehind (s : Settings) (c : Http.Client)
    (last : Except Http.RequestFault Http.Reply) : List Http.Request → Prop
  | token {a : Http.Response} {answer : TokenAnswer} {rs : List Http.Request}
    (is : last = .ok (.answer a)) (reads : Answer.read (.ok s) .token a = .ok answer)
    (sends : Errand.Sends s c (some (.validation answer.accessToken : Errand τ)) rs) :
    SendsBehind s c last rs
  | nothing (refused : ∀ a answer, last = .ok (.answer a) →
      Answer.read (.ok s) .token a ≠ .ok answer) : SendsBehind s c last []

/-- The requests that are sent from `w` on to get a token and have it validated. Only polls are sent
again, and only after answers that were pending. -/
inductive Errand.SendsForToken (s : Settings) (w : World σ τ) (builder : Option (UrlBuilder τ))
    (again : Bool) : List Http.Request → Prop
  | asked {b : UrlBuilder τ} {r : Http.Request} {pending : List Http.Response}
    {last : Except Http.RequestFault Http.Reply} {rs : List Http.Request}
    (is : builder = some b) (can : (post b).Sendable s w.client)
    (sent : (post b).SentAs s w.client r)
    (handed : w.handed (List.replicate (pending.length + 1) r) =
      pending.map (fun a => .ok (.answer a)) ++ [last])
    (refused : ∀ a ∈ pending, Answer.Refuses a.body "authorization_pending")
    (once : again = false → pending = [])
    (behind : SendsBehind (τ := τ) s w.client last rs) :
    SendsForToken s w builder again (List.replicate (pending.length + 1) r ++ rs)
  | nothing (cannot : ∀ b, builder = some b → ¬(post b).Sendable s w.client) :
    SendsForToken s w builder again []

/-- A request that is sent once. -/
theorem Errand.SendsForToken.single {s : Settings} {w : World σ τ} {b : UrlBuilder τ}
    {again : Bool} {r : Http.Request} {last : Except Http.RequestFault Http.Reply}
    {rs : List Http.Request} (hcan : (post b).Sendable s w.client)
    (hsent : (post b).SentAs s w.client r) (hlast : w.handed [r] = [last])
    (hbehind : SendsBehind (τ := τ) s w.client last rs) :
    SendsForToken s w (some b) again ([r] ++ rs) := by
  change SendsForToken s w (some b) again
    (List.replicate (([] : List Http.Response).length + 1) r ++ rs)
  exact .asked rfl hcan hsent hlast nofun (fun _ => rfl) hbehind

/-- One more request in front, whose answer was pending. -/
theorem Errand.SendsForToken.cons {s : Settings} {w v : World σ τ} {b : UrlBuilder τ}
    {r : Http.Request} {a : Http.Response} {rs : List Http.Request} (hex : Exchanged [r] w v)
    (hcan : (post b).Sendable s w.client) (hsent : (post b).SentAs s w.client r)
    (ha : w.handed [r] = [.ok (.answer a)])
    (hrefuses : Answer.Refuses a.body "authorization_pending")
    (h : SendsForToken s v (some b) true rs) : SendsForToken s w (some b) true (r :: rs) := by
  cases h with
  | @asked b' r' pending last rs is can sent handed refused once behind =>
    cases is
    rw [hex.client] at sent behind
    cases hsent.unique sent
    change SendsForToken s w (some b) true (List.replicate ((a :: pending).length + 1) r ++ rs)
    refine .asked rfl hcan hsent ?_ (List.forall_mem_cons.2 ⟨hrefuses, refused⟩) nofun behind
    have happend := hex.handed_append (List.replicate (pending.length + 1) r)
    rw [ha, handed] at happend
    exact happend
  | nothing cannot =>
    rw [hex.client] at cannot
    exact absurd hcan (cannot b rfl)

/-- What an operation means to send. -/
inductive Plan (τ : Type) where
  /-- One request at most. -/
  | errand (e : Option (Errand τ))
  /-- Requests for a token, sent again or not, and the one that validates it. -/
  | token (b : Option (UrlBuilder τ)) (again : Bool)

/-- The requests are what a plan says, sent from `w` on. -/
def Plan.Sends (s : Settings) (w : World σ τ) : Plan τ → List Http.Request → Prop
  | .errand e => Errand.Sends s w.client e
  | .token b again => Errand.SendsForToken s w b again

namespace Flow

/-- A flow sends what a plan says, wherever the settings load. -/
def Follows (s : Settings) (plan : Plan τ) (f : Flow (World σ τ) ε α) : Prop :=
  ∀ w, w.settings = .ok s → ∃ rs, Exchanged rs w (f w).2 ∧ plan.Sends s w rs

variable {s : Settings} {plan : Plan τ} {f : Flow (World σ τ) ε α}

theorem Follows.bind {g : α → Flow (World σ τ) ε β} (hf : Follows s plan f)
    (hg : ∀ a v, Exchanged [] v (g a v).2) : Follows s plan (f >>= g) := by
  intro w hs
  obtain ⟨rs, hex, hsends⟩ := hf w hs
  exact ⟨rs, bind_exchanged hex hg, hsends⟩

theorem Follows.mapFault (hf : Follows s plan f) (g : ε → δ) : Follows s plan (f.mapFault g) := by
  intro w hs
  rw [mapFault_apply]
  exact hf w hs

theorem Follows.seenAs (hf : Follows s plan f) (onFault : ε → δ) (onResult : α → β) :
    Follows s plan (f.seenAs onFault onResult) :=
  (hf.mapFault onFault).bind fun _ v => .refl v

/-- A flow that sends nothing goes on no errand. -/
theorem follows_nothing (h : ∀ w, Exchanged [] w (f w).2) : Follows s (.errand none) f :=
  fun w _ => ⟨[], h w, .nothing fun _ he => nomatch he⟩

theorem follows_no_token (again : Bool) (h : ∀ w, Exchanged [] w (f w).2) :
    Follows s (.token none again) f :=
  fun w _ => ⟨[], h w, .nothing fun _ he => nomatch he⟩

/-! ### One errand -/

theorem send_sent {e : Errand τ} {r : Http.Request} {w : World σ τ} (h : e.request s = .ok r) :
    ∃ rs, Exchanged rs w (send r w).2 ∧ Errand.Sends s w.client (some e) rs := by
  have hiff : e.Sendable s w.client ↔ w.CanSend r := Errand.sendable_iff_canSend h
  by_cases hcan : w.CanSend r
  · have hsendable := hiff.2 hcan
    obtain ⟨⟨u, hu⟩, hclient⟩ := hcan
    exact ⟨_, (send_exchanged hu hclient).1, .one rfl hsendable (Errand.sentAs h w.client)⟩
  · exact ⟨[], (send_unsent hcan).1, .nothing fun e' he' => by cases he'; exact mt hiff.1 hcan⟩

/-- A flow that makes the request of an errand, sends it and goes on quietly. -/
theorem follows_errand {make : Answer.Loaded → Except Escape Http.Request}
    {errand : Option (Errand τ)} (hmake : Errand.Makes s errand (make (.ok s)))
    {k : Http.Request → Flow (World σ τ) ε α} (hk : ∀ r v, Exchanged [] (send r v).2 (k r v).2) :
    Follows s (.errand errand) (prepare make >>= k) := by
  intro w hs
  rw [← hs] at hmake
  cases hmade : make w.settings with
  | error x =>
    rw [hmade] at hmake
    rw [bind_error (prepare_error hmade)]
    exact ⟨[], .refl w, .nothing fun e he => hmake.not_sendable he⟩
  | ok r =>
    rw [bind_ok (prepare_ok hmade)]
    obtain ⟨e, rfl, hr⟩ := (hmake r).1 hmade
    obtain ⟨rs, hex, hsends⟩ := send_sent (w := w) hr
    exact ⟨rs, hex.quiet (hk r w), hsends⟩

/-- What is done quietly with the answer to a request. -/
theorem send_quietly {seen : SendFault → ε} {rest : Http.Response → Flow (World σ τ) ε α}
    (hrest : ∀ a v, Exchanged [] v (rest a v).2) (r : Http.Request) (w : World σ τ) :
    Exchanged [] (send r w).2 (((send r).mapFault seen >>= rest) w).2 := by
  refine bind_exchanged ?_ hrest
  rw [mapFault_apply]
  exact .refl _

theorem call_quietly {k : RecordKind β} {seen : CallFault → ε} {rest : β → Flow (World σ τ) ε α}
    (hrest : ∀ a v, Exchanged [] v (rest a v).2) (r : Http.Request) (w : World σ τ) :
    Exchanged [] (send r w).2 (((call r k).mapFault seen >>= rest) w).2 := by
  refine bind_exchanged ?_ hrest
  rw [mapFault_apply]
  exact send_quietly (fun a v => by rw [mapFault_apply]; exact .refl v) r w

end Flow

/-! ## The endpoints and tokens -/

section Endpoints

open Bearer.Flow Errand

variable {s : Settings}

theorem Endpoint.validate_follows (access : Option AccessToken) :
    Follows s (.errand (ofAccess access))
      (Endpoint.validate access : Flow (World σ τ) ValidationFault Validation) := by
  refine follows_errand (validation_makes s access) fun r v => send_quietly (fun a u => ?_) r v
  split
  · exact .refl u
  · refine bind_exchanged ?_ fun _ v => .logged v _
    rw [mapFault_apply]
    exact .refl u

theorem Endpoint.revoke_follows (access : Option AccessToken) (client : Option ClientId) :
    Follows s (.errand (ofRevocation access client))
      (Endpoint.revoke access client : Flow (World σ τ) RevocationFault Unit) := by
  refine follows_errand (revocation_makes s access client) fun r v =>
    send_quietly (fun a u => ?_) r v
  cases Answer.check a with
  | error f => exact .refl u
  | ok _ => exact .logged u _

theorem Endpoint.refresh_follows (token : Option RefreshToken) (client : Option ClientId)
    (secret : Option ClientSecret) :
    Follows s (.errand (ofRefresh token client secret))
      (Endpoint.refresh token client secret : Flow (World σ τ) RefreshFault Refreshed) := by
  refine follows_errand (refresh_makes s token client secret) fun r v =>
    call_quietly (fun answer u => ?_) r v
  cases answer.expiresIn with
  | none => exact .refl u
  | some span => exact .logged u _

theorem Endpoint.credentials_follows (client : Option ClientId) (secret : Option ClientSecret)
    (scopes : List Scope) :
    Follows s (.errand (ofCredentials client secret scopes))
      (Endpoint.credentials client secret scopes :
        Flow (World σ τ) CredentialsFault TokenAnswer) :=
  follows_errand (credentials_makes s client secret scopes) fun r v =>
    call_quietly (fun _ u => .logged u _) r v

theorem AppToken.obtain_follows (client : Option ClientId) (secret : Option ClientSecret)
    (scopes : List Scope) :
    Follows s (.errand (ofCredentials client secret scopes))
      (AppToken.obtain client secret scopes : Flow (World σ τ) CredentialsFault (AppToken τ)) :=
  (Endpoint.credentials_follows client secret scopes).bind fun _ v => .refl v

theorem AppToken.ofExisting_follows (access : Option AccessToken) (spare : Option RefreshToken)
    (secret : Option ClientSecret) :
    Follows s (.errand (ofAccess access))
      (AppToken.ofExisting access spare secret : Flow (World σ τ) ValidationFault (AppToken τ)) :=
  (Endpoint.validate_follows access).bind fun _ v => .refl v

theorem UserToken.ofExisting_follows (access : Option AccessToken) (spare : Option RefreshToken)
    (secret : Option ClientSecret) :
    Follows s (.errand (ofAccess access))
      (UserToken.ofExisting access spare secret :
        Flow (World σ τ) ValidationFault (UserToken τ)) := by
  refine (Endpoint.validate_follows access).bind fun validation v => ?_
  unfold UserToken.assemble
  rw [bind_ok (now_apply v)]
  cases UserToken.ofValidation? validation access spare secret v.now with
  | some t => exact .refl v
  | none => exact .refl v

/-- The errand of refreshing a token. An app token that cannot be refreshed is got anew. -/
def Errand.ofToken : Token τ → Option (Errand τ)
  | .app t =>
    match t.refreshToken with
    | some token => ofRefresh (some token) t.clientId t.clientSecret
    | none => ofCredentials t.clientId t.clientSecret t.scopes
  | .user t => ofRefresh t.refreshToken t.clientId t.clientSecret

theorem Token.refreshed_follows (t : Token τ) :
    Follows s (.errand (ofToken t))
      (t.refreshed : Flow (World σ τ) RefreshFault (Token τ)) := by
  cases t with
  | app t =>
    refine Follows.bind (f := t.refreshed) ?_ fun _ v => .refl v
    simp only [AppToken.refreshed, ofToken]
    cases t.refreshToken with
    | some token =>
      exact Follows.bind (Endpoint.refresh_follows _ _ _) fun _ v => .refl v
    | none =>
      exact Follows.bind ((AppToken.obtain_follows _ _ _).mapFault _) fun _ v => .refl v
  | user t =>
    refine Follows.bind (f := t.refreshed) ?_ fun _ v => .refl v
    simp only [UserToken.refreshed, ofToken]
    cases t.refreshToken with
    | some token => exact Follows.bind (Endpoint.refresh_follows _ _ _) fun _ v => .refl v
    | none => exact follows_nothing fun w => .refl w

end Endpoints

/-! ## Tokens and their validation -/

namespace Flow

variable {s : Settings} {rest : TokenAnswer → Flow (World σ τ) δ β}

/-- What a call comes to that can be sent: its record is the one that the answer reads as. -/
theorem call_sent {k : RecordKind α} {r : Http.Request} {w v : World σ τ}
    {result : Except (Failure CallFault) α} (hs : w.settings = .ok s) (hcan : w.CanSend r)
    (h : call r k w = (result, v)) :
    Exchanged [w.client.prepare r] w v ∧ ∀ record, result = .ok record ↔
      ∃ a, w.answerTo r = .ok (.answer a) ∧ Answer.read (.ok s) k a = .ok record := by
  obtain ⟨⟨u, hu⟩, hsend⟩ := hcan
  obtain ⟨hex, hresult⟩ := send_exchanged hu hsend
  rcases call_cases h with ⟨e, hfailed, rfl⟩ | ⟨a, hsent, rfl⟩
  · rw [hfailed] at hex hresult
    refine ⟨hex, fun record => ⟨nofun, ?_⟩⟩
    rintro ⟨a, ha, -⟩
    cases hresult.trans (sendResult_eq_ok_iff.2 ha)
  · rw [hsent] at hex hresult
    have ha := sendResult_eq_ok_iff.1 hresult.symm
    refine ⟨hex, fun record => ?_⟩
    rw [mapError_eq_ok_iff, hs]
    constructor
    · exact fun hread => ⟨a, ha, hread⟩
    · rintro ⟨a', ha', hread⟩
      rw [ha] at ha'
      cases ha'
      exact hread

theorem call_unsent (k : RecordKind α) {r : Http.Request} {w : World σ τ} (hcan : ¬w.CanSend r) :
    ∃ v e, call r k w = (.error e, v) ∧ Exchanged [] w v := by
  obtain ⟨hquiet, x, hescape⟩ := send_unsent hcan
  rcases call_cases (Prod.eta (call r k w)).symm with ⟨e, hsend, hresult⟩ | ⟨a, hsend, -⟩
  · rw [hsend] at hquiet
    exact ⟨_, _, ends_of_fst hresult, hquiet⟩
  · rw [hsend] at hescape
    cases hescape

/-- A call that can be sent is followed by the validation of the token that its answer brings. -/
theorem call_behind {r : Http.Request} {w w' : World σ τ} (hs : w.settings = .ok s)
    (hcan : w.CanSend r)
    (hrest : ∀ answer, Follows s (.errand (some (.validation answer.accessToken))) (rest answer))
    (hok : ∀ answer v, call r .token w = (.ok answer, v) → Exchanged [] (rest answer v).2 w')
    (herror : ∀ e v, call r .token w = (.error e, v) → Exchanged [] v w') :
    ∃ rs, Exchanged ([w.client.prepare r] ++ rs) w w' ∧
      Errand.SendsBehind (τ := τ) s w.client (w.answerTo r) rs := by
  rcases hcall : call r .token w with ⟨e | answer, v⟩
  · obtain ⟨hex, hresult⟩ := call_sent hs hcan hcall
    refine ⟨[], hex.trans (herror e v hcall), .nothing fun a answer ha hread => ?_⟩
    cases (hresult answer).2 ⟨a, ha, hread⟩
  · obtain ⟨hex, hresult⟩ := call_sent hs hcan hcall
    obtain ⟨a, ha, hread⟩ := (hresult answer).1 rfl
    obtain ⟨rs, hex', hsends⟩ := hrest answer v (hex.settings.trans hs)
    have hsends : Errand.Sends s v.client _ rs := hsends
    rw [hex.client] at hsends
    exact ⟨rs, hex.trans (hex'.quiet (hok answer v hcall)), .token ha hread hsends⟩

/-- A flow that makes the request for a token, calls it and has what it brings validated. -/
theorem follows_token {make : Answer.Loaded → Except Escape Http.Request}
    {builder : Option (UrlBuilder τ)}
    (hmake : Errand.Makes s (builder.map .post) (make (.ok s)))
    {k : Http.Request → Flow (World σ τ) ε α}
    (hrest : ∀ answer, Follows s (.errand (some (.validation answer.accessToken))) (rest answer))
    (hok : ∀ r w answer v, call r .token w = (.ok answer, v) →
      Exchanged [] (rest answer v).2 (k r w).2)
    (herror : ∀ r w e v, call r .token w = (.error e, v) → Exchanged [] v (k r w).2) (again : Bool) :
    Follows s (.token builder again) (prepare make >>= k) := by
  intro w hs
  rw [← hs] at hmake
  cases hmade : make w.settings with
  | error x =>
    rw [hmade] at hmake
    rw [bind_error (prepare_error hmade)]
    exact ⟨[], .refl w, .nothing fun b hb => hmake.not_sendable (by rw [hb]; rfl)⟩
  | ok r =>
    rw [bind_ok (prepare_ok hmade)]
    obtain ⟨e, he, hr⟩ := (hmake r).1 hmade
    obtain ⟨b, rfl, rfl⟩ := Option.map_eq_some_iff.1 he
    have hiff : (Errand.post b).Sendable s w.client ↔ w.CanSend r := Errand.sendable_iff_canSend hr
    by_cases hcan : w.CanSend r
    · obtain ⟨rs, hex, hbehind⟩ := call_behind hs hcan hrest (hok r w) (herror r w)
      exact ⟨_, hex, .single (hiff.2 hcan) (Errand.sentAs hr w.client) (handed_prepared w r)
        hbehind⟩
    · obtain ⟨v, x, hcall, hquiet⟩ := call_unsent .token hcan
      exact ⟨[], hquiet.quiet (herror r w x v hcall),
        .nothing fun b' hb => by cases hb; exact mt hiff.1 hcan⟩

end Flow

end Bearer
