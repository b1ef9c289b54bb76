import Bearer.Cli.Run
import Bearer.Proofs.Grant.BrowserRun
import Bearer.Proofs.Operation.Sent
import Bearer.Proofs.Secrecy.Outcomes
import Bearer.Proofs.Url.Pasted

/-!
# The redirect that is pasted

A flow by a redirect prints a URL and asks for the one that the user was redirected to. Whatever is
typed, nothing is sent unless the first line that is not empty is a URL without an error in its
query, with a code, and with the state of the URL that was printed; then its code is exchanged. Of
parameters that are repeated the first ones count. A user who comes back with the code and the
state, and nothing else, is never turned away: the code is exchanged if the request for that can be
sent at all.

* `Redirects`, `redirects_pasted`: what counts as a redirect, and the ones that users come back
  with.
* `exchangeCode_sends`, `sendable_exchange`: what exchanging a code sends, and what it takes.
* `finish_asking`, `finish_sends`, `finish_letIn`: the line that counts, and what it comes to.
* `auth_flow_guards`: the command, whatever is typed.
-/
namespace Bearer.Cli

open World Errand Url.Form

/-! ## Redirects -/

/-- A text, without the blanks round it, is a URL whose query has no error, and whose first code and
first state are these. -/
structure Redirects (text state code : String) : Prop where
  reads : ∃ u, Url.parse (Text.trimmed text) = .ok u ∧ valuesOf u.ownParams "error" = [] ∧
    (valuesOf u.ownParams "code").head? = some code ∧
    (valuesOf u.ownParams "state").head? = some state

theorem first?_queryOf (u : Url) (name : String) :
    u.queryOf.first? name = (valuesOf u.ownParams name).head? := by
  rw [Url.queryOf_eq, Url.Query.first?, Url.Query.values_ofParams]

theorem ofQuery_eq_code_iff {u : Url} {state code : String} :
    Redirected.ofQuery u.queryOf = .code state code ↔ valuesOf u.ownParams "error" = [] ∧
      (valuesOf u.ownParams "code").head? = some code ∧
      (valuesOf u.ownParams "state").head? = some state := by
  simp only [Redirected.ofQuery, first?_queryOf]
  cases valuesOf u.ownParams "error" with
  | cons e es => simp
  | nil =>
    cases (valuesOf u.ownParams "code").head? <;> cases (valuesOf u.ownParams "state").head? <;>
      simp [and_comm]

theorem redirects_iff {text state code : String} {u : Url}
    (hu : Url.parse (Text.trimmed text) = .ok u) :
    Redirects text state code ↔ Redirected.ofQuery u.queryOf = .code state code := by
  rw [ofQuery_eq_code_iff]
  constructor
  · rintro ⟨v, hv, h⟩
    rw [hu] at hv
    cases hv
    exact h
  · exact fun h => ⟨u, hu, h⟩

/-- A code and a state are all of the query of a URL that a user comes back with, in either order
and with blanks round the URL perhaps. -/
theorem redirects_pasted {base : String} {u : Url} (hu : Url.parse base = .ok u)
    (hbase : Url.InFront base) (hscheme : u.scheme ≠ "") {state code : String}
    {ps : List Url.Form.Param} (hps : ps.Perm [("code", code), ("state", state)])
    (hshort : (Url.textWith base ps).toList.length ≤ Url.maxLength) {text : String}
    {front behind : List Char} (hblank : ∀ c ∈ front ++ behind, Text.isBlank c = true)
    (htext : text.toList = front ++ ((Url.textWith base ps).toList ++ behind)) :
    Redirects text state code := by
  have hne : ps ≠ [] := fun hnil => by simp [hnil] at hps
  have hnames : (ps.map Prod.fst).Nodup := (hps.map Prod.fst).nodup_iff.2 (by simp)
  have hcode : valuesOf ps "code" = [code] :=
    valuesOf_of_mem hnames (p := ("code", code)) (hps.mem_iff.2 (by simp))
  have hstate : valuesOf ps "state" = [state] :=
    valuesOf_of_mem hnames (p := ("state", state)) (hps.mem_iff.2 (by simp))
  have herror : valuesOf ps "error" = [] :=
    valuesOf_eq_nil fun hmem => by simpa using (hps.map Prod.fst).mem_iff.1 hmem
  have hread := Url.parse_withParams hu hbase ps hshort
  rw [← Url.trimmed_pasted hu hbase hscheme hne hblank htext] at hread
  refine ⟨_, hread, ?_⟩
  rw [Url.ownParams_withQuery, hcode, hstate]
  exact ⟨herror, rfl, rfl⟩

/-! ## Exchanging the code -/

variable {σ τ : Type} [Http.Server σ] {s : Settings} {w : World σ τ} {g : BrowserGrant}
  {client : ClientId} {secret : ClientSecret} {redirect state code : String} {csrf : CsrfToken}

/-- The parameters that a code is exchanged with. -/
def codeParams (client : ClientId) (secret : ClientSecret) (redirect code : String) :
    List Param :=
  [("client_id", client.text), ("client_secret", secret.text), ("code", code),
    ("grant_type", "authorization_code"), ("redirect_uri", redirect)]

/-- A request that posts these to the endpoint for tokens. Whoever reads its query as a form finds
the code, once, as it was given. -/
structure Exchanges (s : Settings) (client : ClientId) (secret : ClientSecret)
    (redirect code : String) (r : Http.Request) : Prop where
  method : r.method = "POST"
  endpoint : ∃ u, Url.parse s.tokenUrl = .ok u ∧
    u.Extends (codeParams client secret redirect code) r.url
  code : ∃ q, r.url.query = some q ∧ valuesOf (decode q.toList) "code" = [code]

/-- What is sent to exchange a code: one request, and behind it the validation of the token that its
answer brings, if it brings one. -/
inductive ExchangesCode (s : Settings) (w : World σ τ) (client : ClientId) (secret : ClientSecret)
    (redirect code : String) : List Http.Request → Prop
  | asked {r : Http.Request} {answer : Except Http.RequestFault Http.Reply} {rs : List Http.Request}
    (exchanges : Exchanges s client secret redirect code r) (handed : w.handed [r] = [answer])
    (behind : SendsBehind (τ := τ) s w.client answer rs) :
    ExchangesCode s w client secret redirect code (r :: rs)

omit [Http.Server σ] in
theorem exchanges_of_sentAs {c : Http.Client} {r : Http.Request}
    (h : (post (.exchange g client secret code) : Errand τ).SentAs s c r) :
    Exchanges s client secret g.redirectUrl code r := by
  obtain ⟨u, hu, hv⟩ := bind_eq_ok h.url
  have hextends : u.Extends (codeParams client secret g.redirectUrl code) r.url :=
    Url.Extends.of_withParams (Url.parse_isRead hu) (List.cons_ne_nil _ _)
      (UrlBuilder.nodup_params (.exchange g client secret code : UrlBuilder τ)) hv
  obtain ⟨query, hquery, -, harrive⟩ := hextends.query
  exact ⟨h.method, ⟨u, hu, hextends⟩, query, hquery,
    harrive.given ("code", code) (by simp [codeParams])⟩

omit [Http.Server σ] in
/-- A code is exchanged with what the flow holds, if it comes back with the state of the flow. -/
theorem redirectExchange_eq (hclient : g.clientId = some client) (hcsrf : g.csrf = some csrf)
    (secret : ClientSecret) (state code : String) :
    (g.redirectExchange (some secret) (some state) code : Option (UrlBuilder τ)) =
      if state = csrf.text then some (.exchange g client secret code) else none := by
  have hexpects : g.expects (some state) = true ↔ state = csrf.text := by
    rw [BrowserGrant.expects_eq_stateIsValid, BrowserGrant.stateIsValid_iff, hcsrf,
      Option.some.injEq]
    exact ⟨fun h => congrArg Credential.text h.symm, fun h => congrArg Credential.mk h.symm⟩
  unfold BrowserGrant.redirectExchange exchange?
  simp only [hexpects, hclient]
  rfl

/-- A code that comes back with the state of the flow is exchanged if its request can be sent, and
with any other state nothing is sent. -/
theorem exchangeCode_sends (hs : w.settings = .ok s) (hclient : g.clientId = some client)
    (hcsrf : g.csrf = some csrf) (secret : ClientSecret) (state code : String) :
    ∃ rs, Exchanged rs w (g.exchangeCode (some secret) (some state) code w).2 ∧
      (rs = [] ∧ (state = csrf.text →
          ¬(post (.exchange g client secret code) : Errand τ).Sendable s w.client) ∨
        state = csrf.text ∧ ExchangesCode s w client secret g.redirectUrl code rs) := by
  obtain ⟨rs, hex, hsends⟩ := g.exchangeCode_follows (some secret) (some state) code w hs
  refine ⟨rs, hex, ?_⟩
  rw [Plan.Sends, redirectExchange_eq hclient hcsrf] at hsends
  cases hsends with
  | @asked b r pending last rs is can sent handed refused once behind =>
    -- a code is exchanged once, so no answer was pending
    cases once rfl
    by_cases hstate : state = csrf.text
    · rw [if_pos hstate] at is
      cases is
      exact .inr ⟨hstate, .asked (exchanges_of_sentAs sent) handed behind⟩
    · rw [if_neg hstate] at is
      cases is
  | nothing cannot =>
    exact .inl ⟨rfl, fun hstate => cannot _ (if_pos hstate)⟩

/-! ## Whether it can be sent -/

/-- The endpoint for tokens is a URL whose host is a proper name and that is not too long by itself,
and what the client calls itself is ASCII. -/
structure Reaches (s : Settings) (c : Http.Client) (endpoint : Url) : Prop where
  reads : Url.parse s.tokenUrl = .ok endpoint
  host : ∃ host, endpoint.renormalized.plainHost = .ok host
  short : Url.isShort { endpoint.renormalized with query := none } = true
  name : ∀ name, c = .agent name → Text.isAscii name = true

omit [Http.Server σ] in
/-- All else that it takes to exchange a code is that its parameters fit into the URL. -/
theorem sendable_exchange {c : Http.Client} {endpoint : Url} (h : Reaches s c endpoint)
    (hfits : endpoint.withParams (codeParams client secret g.redirectUrl code) ≠
      .error .tooLong) :
    (post (.exchange g client secret code) : Errand τ).Sendable s c := by
  have hne : codeParams client secret g.redirectUrl code ≠ [] := List.cons_ne_nil _ _
  obtain ⟨v, hv, -, hhost⟩ := (Url.withParams_extends (Url.parse_isRead h.reads) hne
    (UrlBuilder.nodup_params (.exchange g client secret code : UrlBuilder τ))).resolve_right
      fun hlong => hfits hlong.1
  refine ⟨⟨v, ?_, ?_, ?_⟩, nofun, h.name⟩
  · change (Url.parse s.tokenUrl).bind _ = _
    rw [h.reads]
    exact hv
  · unfold Url.plainHost
    rw [hhost]
    exact h.host
  · rw [Http.Request.withParams_eq hne hv]
    exact ⟨_, if_pos h.short⟩

/-- Where neither the root nor the endpoint for tokens is set, only the name of the client counts.
-/
theorem reaches_default (hurl : s.tokenUrl = ({} : Settings).tokenUrl)
    (hname : Text.isAscii s.userAgent = true) :
    Reaches s (.agent s.userAgent)
      ⟨"https", "", "id.twitch.tv", none, "/oauth2/token", none, none⟩ where
  reads := by
    rw [hurl]
    decide +kernel
  host := ⟨"id.twitch.tv", by decide +kernel⟩
  short := by decide +kernel
  name _ h := by
    cases h
    exact hname

/-! ## The URL that is printed -/

omit [Http.Server σ] in
/-- The URL that is generated is the one that is made with the CSRF token of the bytes, which is
remembered. -/
theorem generateUrl_eq {ε : Type} (random : List UInt8) (g : BrowserGrant) (w : World σ τ) :
    (BrowserGrant.generateUrl random : Flow _ ε _) (g, w) =
      (((g.url w.settings (Csrf.ofBytes random)).mapError Failure.escape).map
        (·, Csrf.ofBytes random), (g.setCsrf (some (Csrf.ofBytes random)), w)) := by
  unfold BrowserGrant.generateUrl
  rw [Flow.bind_ok (Flow.held_apply _), Flow.bind_ok (Flow.hold_apply _ _), Flow.bind_apply,
    Flow.beside_apply, Flow.prepare_apply]
  cases g.url w.settings (Csrf.ofBytes random) <;> rfl

/-- What is written before a line is asked for. -/
def invitation (printed : String) : String :=
  "Open this URL in a browser and authorize the application:\n" ++ printed ++ "\n" ++ promptText

theorem authFlow_done {random : List UInt8} {e : Escape}
    (h : g.url w.settings (Csrf.ofBytes random) = .error e) (secret : ClientSecret) (asJson : Bool) :
    ∃ o w', authFlow random g secret asJson w = .done o w' ∧ Exchanged [] w w' := by
  unfold authFlow
  rw [generateUrl_eq, h]
  exact ⟨_, _, rfl, .refl w⟩

omit [Http.Server σ] in
theorem settings_of_url {csrf : CsrfToken} {u : Url} (h : g.url w.settings csrf = .ok u) :
    ∃ s, w.settings = .ok s := by
  obtain ⟨ps, -, h⟩ := bind_eq_ok h
  obtain ⟨s, hs, -⟩ := bind_eq_ok h
  exact ⟨s, Flow.mapError_eq_ok_iff.1 hs⟩

omit [Http.Server σ] in
theorem authFlow_asking {random : List UInt8} {u : Url}
    (h : g.url w.settings (Csrf.ofBytes random) = .ok u) (secret : ClientSecret) (asJson : Bool) :
    authFlow random g secret asJson w =
      .asking ⟨g.setCsrf (some (Csrf.ofBytes random)), secret, asJson, invitation u.text⟩ w := by
  unfold authFlow
  rw [generateUrl_eq, h]
  rfl

/-! ## What a line comes to -/

/-- A run that is concluded has ended, with the fault of the flow if there is one, and nothing more
is sent. -/
theorem conclude_done {ε α : Type} [Diagnosable ε] {out err : String}
    {done : α → World σ τ → Outcome} (hdone : ∀ a w, (done a w).fault = none)
    (r : Except (Failure ε) α × World σ τ) :
    ∃ o w', conclude out err done r = .done o w' ∧ Exchanged [] r.2 w' ∧
      ∀ d, o.fault = some d → ∃ e, r.1 = .error (.fault e) ∧ d = Diagnosable.diagnosis e := by
  obtain ⟨⟨e | x⟩ | a, w⟩ := r
  · exact ⟨_, _, rfl, .logged w _, fun d hd => ⟨e, rfl, (Option.some.inj hd).symm⟩⟩
  · exact ⟨_, _, rfl, .refl w, nofun⟩
  · refine ⟨_, _, rfl, .refl w, fun d hd => ?_⟩
    rw [hdone a w] at hd
    cases hd

omit [Http.Server σ] in
theorem tokenOutcome_fault [Time.Clock τ] (asJson : Bool) (out err : String) (t : Token τ)
    (w : World σ τ) : (tokenOutcome asJson out err t w).fault = none := by
  unfold tokenOutcome
  split <;> rfl

variable [Time.Clock τ] {q : Question} {text : String}

/-- The code of a redirect is exchanged, and that is all. -/
theorem finish_of_redirects (h : Redirects text state code) (q : Question) (w : World σ τ) :
    ∃ o w', q.finish text w = .done o w' ∧
      Exchanged [] (q.grant.exchangeCode (some q.secret) (some state) code w).2 w' ∧
      ∀ d, o.fault = some d → ∃ e,
        (q.grant.exchangeCode (some q.secret) (some state) code w).1 = .error (.fault e) ∧
          d = Diagnosable.diagnosis e := by
  obtain ⟨u, hu, -⟩ := h.reads
  unfold Question.finish
  rw [hu]
  simp only [(redirects_iff hu).1 h]
  exact conclude_done (fun t w => tokenOutcome_fault _ _ _ _ w) _

/-- What is no redirect ends the run. -/
theorem finish_of_not_redirects (h : ∀ state code, ¬Redirects text state code) (q : Question)
    (w : World σ τ) : ∃ o, q.finish text w = .done o w := by
  unfold Question.finish
  cases hu : Url.parse (Text.trimmed text) with
  | error e => exact ⟨_, rfl⟩
  | ok u =>
    cases hbrings : Redirected.ofQuery u.queryOf with
    | code state code => exact absurd ((redirects_iff hu).2 hbrings) (h state code)
    | refused | nothing =>
      simp only [hbrings]
      exact ⟨_, rfl⟩

/-- A line that is not empty ends the run. -/
theorem finish_done (q : Question) (text : String) (w : World σ τ) :
    ∃ o w', q.finish text w = .done o w' := by
  by_cases h : ∃ state code, Redirects text state code
  · obtain ⟨state, code, h⟩ := h
    obtain ⟨o, w', hdone, -⟩ := finish_of_redirects h q w
    exact ⟨o, w', hdone⟩
  · obtain ⟨o, hdone⟩ := finish_of_not_redirects (fun state code h' => h ⟨state, code, h'⟩) q w
    exact ⟨o, w, hdone⟩

/-! ## The line that counts -/

/-- What is typed: the first line that is not empty. -/
def typed (lines : List String) : Option String :=
  lines.find? fun line => !line.isEmpty

theorem Progress.finish_done (o : Outcome) (w : World σ τ) (lines : List String) :
    (Progress.done o w).finish lines = (o, w) := by
  cases lines <;> rfl

/-- Empty lines are asked for again, and what comes behind the line that is typed is not read. -/
theorem finish_asking (q : Question) (w : World σ τ) (lines : List String) :
    ∃ out, (Progress.asking q w).finish lines =
      match typed lines with
      | none => ({ exitCode := 1, out := out ++ "\n", err := "Aborted.\n" }, w)
      | some text => (Question.finish { q with out := out } text w).finish [] := by
  induction lines generalizing q with
  | nil => exact ⟨q.out, rfl⟩
  | cons line lines ih =>
    by_cases hempty : line.isEmpty = true
    · obtain ⟨out, hout⟩ := ih { q with out := q.out ++ promptText }
      refine ⟨out, ?_⟩
      have htyped : typed (line :: lines) = typed lines :=
        List.find?_cons_of_neg (by simp [hempty])
      rw [htyped, ← hout, Progress.finish, Question.resume, if_pos hempty]
    · refine ⟨q.out, ?_⟩
      have htyped : typed (line :: lines) = some line :=
        List.find?_cons_of_pos (by simp [hempty])
      obtain ⟨o, w', hdone⟩ := Cli.finish_done q line w
      rw [htyped, Progress.finish, Question.resume, if_neg hempty, hdone, Progress.finish_done]
      simp only [hdone]
      rfl

/-! ## The gate -/

/-- What comes of a code that comes back with the right state: the state is not what the run fails
for, and if the endpoint for tokens can be reached and the parameters fit, the code is exchanged. -/
structure LetIn (s : Settings) (w : World σ τ) (client : ClientId) (secret : ClientSecret)
    (redirect code : String) (ended : Outcome × World σ τ) : Prop where
  passes : ∀ d, ended.1.fault = some d → d.kind ≠ .stateMismatch
  sends : ∀ endpoint, Reaches s w.client endpoint →
    endpoint.withParams (codeParams client secret redirect code) ≠ .error .tooLong →
      ∃ rs, Exchanged rs w ended.2 ∧ ExchangesCode s w client secret redirect code rs

/-- Nothing is sent but for a redirect with the state of the flow. -/
theorem finish_sends (hs : w.settings = .ok s) (hclient : q.grant.clientId = some client)
    (hcsrf : q.grant.csrf = some csrf) (text : String) :
    ∃ rs, Exchanged rs w ((q.finish text w).finish []).2 ∧ (rs = [] ∨ ∃ code,
      Redirects text csrf.text code ∧
        ExchangesCode s w client q.secret q.grant.redirectUrl code rs) := by
  by_cases h : ∃ state code, Redirects text state code
  · obtain ⟨state, code, h⟩ := h
    obtain ⟨o, w', hdone, hquiet, -⟩ := finish_of_redirects h q w
    obtain ⟨rs, hex, hrs⟩ := exchangeCode_sends hs hclient hcsrf q.secret state code
    rw [hdone, Progress.finish_done]
    refine ⟨rs, hex.quiet hquiet, ?_⟩
    rcases hrs with ⟨hnil, -⟩ | ⟨rfl, hexchanges⟩
    · exact .inl hnil
    · exact .inr ⟨code, h, hexchanges⟩
  · obtain ⟨o, hdone⟩ := finish_of_not_redirects (fun state code h' => h ⟨state, code, h'⟩) q w
    rw [hdone, Progress.finish_done]
    exact ⟨[], .refl w, .inl rfl⟩

theorem codeFault_kind {f : CodeFault} (h : f ≠ .stateMismatch) :
    (Diagnosable.diagnosis f).kind ≠ .stateMismatch := by
  cases f with
  | stateMismatch => exact absurd rfl h
  | call | validation => nofun

/-- A redirect with the state of the flow is let in. -/
theorem finish_letIn (hs : w.settings = .ok s) (hclient : q.grant.clientId = some client)
    (hcsrf : q.grant.csrf = some csrf) (h : Redirects text csrf.text code) :
    LetIn s w client q.secret q.grant.redirectUrl code ((q.finish text w).finish []) := by
  obtain ⟨o, w', hdone, hquiet, hfault⟩ := finish_of_redirects h q w
  rw [hdone, Progress.finish_done]
  constructor
  · intro d hd
    obtain ⟨f, hf, rfl⟩ := hfault d hd
    refine codeFault_kind fun hmismatch => ?_
    exact BrowserGrant.exchangeCode_ne_mismatch hcsrf (Prod.ext hf rfl) (congrArg _ hmismatch)
  · intro endpoint hreaches hfits
    obtain ⟨rs, hex, hrs⟩ := exchangeCode_sends hs hclient hcsrf q.secret csrf.text code
    refine ⟨rs, hex.quiet hquiet, ?_⟩
    rcases hrs with ⟨-, hcannot⟩ | ⟨-, hexchanges⟩
    · exact absurd (sendable_exchange hreaches hfits) (hcannot rfl)
    · exact hexchanges

/-! ## The command -/

/-- What a user comes back with: a URL without a query and a fragment, behind it a code and the
state for a query, and blanks round the whole perhaps. -/
inductive ComesBack (state code : String) : String → Prop
  | pasted {base text : String} {u : Url} {ps : List Param} {front behind : List Char}
    (reads : Url.parse base = .ok u) (plain : Url.InFront base)
    (scheme : u.scheme = "http" ∨ u.scheme = "https")
    (params : ps.Perm [("code", code), ("state", state)])
    (short : (Url.textWith base ps).toList.length ≤ Url.maxLength)
    (blank : ∀ c ∈ front ++ behind, Text.isBlank c = true)
    (is : text.toList = front ++ ((Url.textWith base ps).toList ++ behind)) :
    ComesBack state code text

theorem ComesBack.redirects (h : ComesBack state code text) : Redirects text state code := by
  obtain ⟨reads, plain, scheme, params, short, blank, is⟩ := h
  refine redirects_pasted reads plain (fun hempty => ?_) params short blank is
  rw [hempty] at scheme
  revert scheme
  decide

/-- What a run does that has printed a URL and waits for the line that the user is redirected to. -/
structure Guards (s : Settings) (w : World σ τ) (client : ClientId) (secret : ClientSecret)
    (redirect printed state : String) (p : Progress σ τ) : Prop where
  /-- It has printed the URL and asks for a line. -/
  asks : ∃ q, p = .asking q w ∧ q.out = invitation printed
  /-- The state stands in the query of the URL. -/
  carries : ∃ query, Url.queryIn printed = some query ∧
    valuesOf (decode query.toList) "state" = [state]
  /-- Whatever is typed, nothing is sent unless it is a redirect with the state; then it is sent for
  its code. -/
  gate : ∀ lines, ∃ rs, Exchanged rs w (p.finish lines).2 ∧ (rs = [] ∨ ∃ text code,
    typed lines = some text ∧ Redirects text state code ∧
      ExchangesCode s w client secret redirect code rs)
  /-- Every redirect with the state is let in. -/
  letsIn : ∀ lines text code, typed lines = some text → Redirects text state code →
    LetIn s w client secret redirect code (p.finish lines)
  /-- So is everybody who comes back with it. -/
  comesBack : ∀ lines text code, typed lines = some text → ComesBack state code text →
    Redirects text state code ∧ LetIn s w client secret redirect code (p.finish lines)

theorem asking_guards {printed : String} (hs : w.settings = .ok s)
    (hclient : q.grant.clientId = some client) (hcsrf : q.grant.csrf = some csrf)
    (hout : q.out = invitation printed)
    (hstate : ∃ query, Url.queryIn printed = some query ∧
      valuesOf (decode query.toList) "state" = [csrf.text]) :
    Guards s w client q.secret q.grant.redirectUrl printed csrf.text (.asking q w) := by
  have hletsIn : ∀ lines text code, typed lines = some text → Redirects text csrf.text code →
      LetIn s w client q.secret q.grant.redirectUrl code ((Progress.asking q w).finish lines) := by
    intro lines text code htyped h
    obtain ⟨out, hout⟩ := finish_asking q w lines
    rw [hout, htyped]
    exact finish_letIn (q := { q with out := out }) hs hclient hcsrf h
  refine ⟨⟨q, rfl, hout⟩, hstate, fun lines => ?_, hletsIn, fun lines text code htyped h =>
    ⟨h.redirects, hletsIn lines text code htyped h.redirects⟩⟩
  obtain ⟨out, hout⟩ := finish_asking q w lines
  rw [hout]
  cases typed lines with
  | none => exact ⟨[], .refl w, .inl rfl⟩
  | some text =>
    obtain ⟨rs, hex, hrs⟩ := finish_sends (q := { q with out := out }) hs hclient hcsrf text
    refine ⟨rs, hex, hrs.imp_right ?_⟩
    rintro ⟨code, h, hexchanges⟩
    exact ⟨text, code, rfl, h, hexchanges⟩

/-- A flow by a redirect ends at once, without a request, if its URL cannot be made. Else it prints
the URL, asks for the redirect and guards what it sends by the state that was printed. -/
theorem auth_flow_guards (random : List UInt8) (limit : Nat) (client : ClientId)
    (secret : ClientSecret) (redirect : String) (scopes : List Scope) (force asJson : Bool)
    (w : World σ τ) :
    let g : BrowserGrant :=
      { responseType := .code, clientId := some client, redirectUrl := redirect, scopes := scopes
        forceVerify := force }
    let p := run random limit (.authFlow client secret redirect scopes force asJson) w
    (∀ e, g.url w.settings (Csrf.ofBytes random) = .error e →
      ∃ o w', p = .done o w' ∧ Exchanged [] w w') ∧
    ∀ u, g.url w.settings (Csrf.ofBytes random) = .ok u →
      ∃ s, w.settings = .ok s ∧
        Guards s w client secret redirect u.text (Csrf.ofBytes random).text p := by
  intro g p
  constructor
  · exact fun e h => authFlow_done h secret asJson
  · intro u h
    obtain ⟨s, hs⟩ := settings_of_url h
    let q : Question := ⟨g.setCsrf (some (Csrf.ofBytes random)), secret, asJson, invitation u.text⟩
    have hp : p = .asking q w := authFlow_asking h secret asJson
    rw [hp]
    exact ⟨s, hs, asking_guards (q := q) hs rfl rfl rfl (BrowserGrant.url_state h)⟩

/-- A code and a state that cannot stand in a query as they are come back behind an empty line, with
blanks round them: the code is exchanged as it is. -/
theorem auth_flow_guards_marks :
    let w : World Http.Script Int :=
      { server := ⟨[]⟩, client := .agent ({} : Settings).userAgent, settings := .ok {}, now := 0 }
    let p := run [251, 255, 190] 9
      (.authFlow ⟨"cid"⟩ ⟨"key"⟩ "https://app.tv/cb" [⟨"chat:read"⟩] true false) w
    let printed := "https://id.twitch.tv/oauth2/authorize?response_type=code&client_id=cid&" ++
      "redirect_uri=https%3A%2F%2Fapp.tv%2Fcb&scope=chat%3Aread&state=%2B%2F%2B%2B&force_verify=true"
    let lines := ["", " https://app.tv/cb?state=%2B%2F%2B%2B&code=a%26b%3D+%2B  "]
    Guards {} w ⟨"cid"⟩ ⟨"key"⟩ "https://app.tv/cb" printed "+/++" p ∧
      ∃ r rs, Exchanged (r :: rs) w (p.finish lines).2 ∧
        Exchanges {} ⟨"cid"⟩ ⟨"key"⟩ "https://app.tv/cb" "a&b= +" r := by
  intro w p printed lines
  have hguards : Guards {} w ⟨"cid"⟩ ⟨"key"⟩ "https://app.tv/cb" printed "+/++" p := by
    let u : Url := ⟨"https", "", "id.twitch.tv", none, "/oauth2/authorize",
      some ("response_type=code&client_id=cid&redirect_uri=https%3A%2F%2Fapp.tv%2Fcb&" ++
        "scope=chat%3Aread&state=%2B%2F%2B%2B&force_verify=true"), none⟩
    obtain ⟨s, hs, hguards⟩ := (auth_flow_guards [251, 255, 190] 9 ⟨"cid"⟩ ⟨"key"⟩
      "https://app.tv/cb" [⟨"chat:read"⟩] true false w).2 u (by decide +kernel)
    cases hs
    have htext : (Csrf.ofBytes [251, 255, 190]).text = "+/++" := by decide +kernel
    have hprinted : u.text = printed := by decide +kernel
    rw [htext, hprinted] at hguards
    exact hguards
  have hcomes : ComesBack "+/++" "a&b= +"
      " https://app.tv/cb?state=%2B%2F%2B%2B&code=a%26b%3D+%2B  " := by
    have hreads : Url.parse "https://app.tv/cb" =
        .ok ⟨"https", "", "app.tv", none, "/cb", none, none⟩ := by decide +kernel
    have hparams : List.Perm [("state", "+/++"), ("code", "a&b= +")]
        [("code", "a&b= +"), ("state", "+/++")] := .swap _ _ _
    have hblank : ∀ c ∈ [' '] ++ [' ', ' '], Text.isBlank c = true :=
      List.all_eq_true.1 (by decide)
    exact .pasted hreads (by decide) (.inr rfl) hparams (by decide +kernel) hblank
      (by decide +kernel)
  obtain ⟨rs, hex, hexchanges⟩ := (hguards.comesBack lines _ _ rfl hcomes).2.sends _
    (reaches_default rfl (by decide)) (by decide +kernel)
  obtain ⟨hr, -, -⟩ := hexchanges
  exact ⟨hguards, _, _, hex, hr⟩

end Bearer.Cli
