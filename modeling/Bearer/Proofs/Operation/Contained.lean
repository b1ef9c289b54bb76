import Bearer.Proofs.Flow.Containing
import Bearer.Proofs.Operation.Closed
import Mathlib.Control.Monad.Basic

/-!
# What comes out of operations

An operation whose settings, credentials and endpoints are in order fails with a fault of its own
kind, unless the last answer lets something else out.

* `taken_contains`: a token that an answer brought is validated.
* `kind_isA`: all faults of an operation are of its kind.
* `contained`: all operations.
-/
namespace Bearer

open World

variable {σ τ ε δ α β : Type} [Http.Server σ]

/-! ## The endpoints -/

section Endpoints

variable {u v w : World σ τ} {s : Settings}

open Bearer.Flow

/-- A request that posts parameters to an endpoint that takes them. -/
theorem Endpoint.post_ok (hsound : w.Sound s) {endpoint : String} {params : List Url.Form.Param}
    (h : Endpoint.Takes endpoint params) :
    ∃ r, Endpoint.post endpoint params = .ok r ∧ w.CanAsk r := by
  obtain ⟨r, hr, hask⟩ := Http.Request.make_ok h (rfl : Http.Headers.areAscii [] = true) "POST" [] hsound.client
  exact ⟨r, by rw [Endpoint.post, Http.Request.post, hr]; rfl, hask⟩

theorem Endpoint.validationRequest_ok (hsound : w.Sound s) (h : Endpoint.Takes s.validateUrl [])
    {t : String} (ht : Text.isAscii t = true) :
    ∃ r, Endpoint.validationRequest w.settings (some ⟨t⟩) = .ok r ∧ w.CanAsk r := by
  rw [← Endpoint.areAscii_authorization] at ht
  obtain ⟨r, hr, hask⟩ := Http.Request.make_ok h ht "GET" [] hsound.client
  refine ⟨r, ?_, hask⟩
  rw [hsound.settings]
  exact congrArg (Except.mapError Escape.request) hr

/-- A token that is not ASCII is not even shown to the server. -/
theorem Endpoint.validate_not_ascii (hsound : w.Sound s) (h : Endpoint.Takes s.validateUrl [])
    {t : String} (ht : Text.isAscii t = false) :
    Endpoint.validate (some ⟨t⟩) w = (.error (.escape (.request .headerNotAscii)), w) := by
  rw [← Endpoint.areAscii_authorization] at ht
  refine bind_error (prepare_error ?_)
  rw [hsound.settings]
  exact congrArg (Except.mapError Escape.request) (Http.Request.make_not_ascii h ht "GET" [])

theorem Endpoint.validate_contains (hsound : w.Sound s) (h : Endpoint.Takes s.validateUrl [])
    {t : String} (ht : Text.isAscii t = true) :
    Contains w (Endpoint.validate (some ⟨t⟩)) w := by
  obtain ⟨request, hmade, hask⟩ := Endpoint.validationRequest_ok hsound h ht
  refine (contains_prepare hmade w).bind fun request' w' hrequest => ?_
  rw [prepare_ok hmade] at hrequest
  cases hrequest
  refine ((send_contains hsound hask).mapFault _).bind fun a v hsend => ?_
  split
  · exact contains_fail _ _ _
  · have haccept := accept_contains hsound .validation (mapFault_eq_ok_iff.1 hsend)
    exact (haccept.mapFault _).bind fun _ _ _ => (contains_note _ _ _ _ _).bind fun _ _ _ =>
      contains_pure _ _ _

/-- A request that is made of the settings, called, and gone on with. -/
theorem Flow.ask_contains (hsound : w.Sound s) {make : Answer.Loaded → Except Escape Http.Request}
    {request : Http.Request} (hmade : make w.settings = .ok request) (hask : w.CanAsk request)
    {k : RecordKind α} (hk : Payload.IsRecord k) {g : CallFault → ε}
    {rest : α → Flow (World σ τ) ε β}
    (hrest : ∀ a v, Flow.call request k w = (.ok a, v) → Contains w (rest a) v) :
    Contains w (prepare make >>= fun r => (call r k).mapFault g >>= rest) w := by
  refine (contains_prepare hmade w).bind fun request' w' hrequest => ?_
  rw [prepare_ok hmade] at hrequest
  cases hrequest
  exact ((call_contains hsound hask hk).mapFault g).bind fun a v hcall =>
    hrest a v (mapFault_eq_ok_iff.1 hcall)

/-- The credentials of a request are there, and its endpoint takes them. -/
def Endpoint.TakesAll (endpoint : String) (params : Except Escape (List Url.Form.Param)) : Prop :=
  ∃ ps, params = .ok ps ∧ Endpoint.Takes endpoint ps

theorem Endpoint.revoke_contains (hsound : w.Sound s) {access : Option AccessToken}
    {client : Option ClientId}
    (h : Endpoint.TakesAll s.revokeUrl (Endpoint.revocationParams access client)) :
    Contains w (Endpoint.revoke access client) w := by
  obtain ⟨params, hparams, htakes⟩ := h
  obtain ⟨request, hpost, hask⟩ := Endpoint.post_ok hsound htakes
  have hmade : Endpoint.revocationRequest w.settings access client = .ok request := by
    rw [hsound.settings, Endpoint.revocationRequest, hparams]
    exact hpost
  refine Contains.bind (contains_prepare hmade w) fun request' w' hrequest => ?_
  rw [prepare_ok hmade] at hrequest
  cases hrequest
  refine ((send_contains hsound hask).mapFault _).bind fun a v _ => ?_
  cases Answer.check a with
  | error f => exact contains_fail _ _ _
  | ok _ => exact contains_note _ _ _ _ _

theorem Endpoint.refresh_contains (hsound : w.Sound s) {token : Option RefreshToken}
    {client : Option ClientId} {secret : Option ClientSecret}
    (h : Endpoint.TakesAll s.tokenUrl (Endpoint.refreshParams token client secret)) :
    Contains w (Endpoint.refresh token client secret) w := by
  obtain ⟨params, hparams, htakes⟩ := h
  obtain ⟨request, hpost, hask⟩ := Endpoint.post_ok hsound htakes
  have hmade : Endpoint.refreshRequest w.settings token client secret = .ok request := by
    rw [hsound.settings, Endpoint.refreshRequest, hparams]
    exact hpost
  refine ask_contains hsound hmade hask .token fun answer v _ => ?_
  cases answer.expiresIn with
  | none => exact contains_fail _ _ _
  | some span => exact (contains_note _ _ _ _ _).bind fun _ _ _ => contains_pure _ _ _

theorem Endpoint.credentials_contains (hsound : w.Sound s) {client : Option ClientId}
    {secret : Option ClientSecret} {scopes : List Scope}
    (h : Endpoint.TakesAll s.tokenUrl (Endpoint.credentialsParams client secret scopes)) :
    Contains w (Endpoint.credentials client secret scopes) w := by
  obtain ⟨params, hparams, htakes⟩ := h
  obtain ⟨request, hpost, hask⟩ := Endpoint.post_ok hsound htakes
  have hmade : Endpoint.credentialsRequest w.settings client secret scopes = .ok request := by
    rw [hsound.settings, Endpoint.credentialsRequest, hparams]
    exact hpost
  exact ask_contains hsound hmade hask .token fun _ _ _ =>
    (contains_note _ _ _ _ _).bind fun _ _ _ => contains_pure _ _ _

/-! ## Tokens -/

theorem UserToken.assemble_contains (u : World σ τ) (validation : Validation)
    (access : Option AccessToken) (spare : Option RefreshToken) (secret : Option ClientSecret)
    (w : World σ τ) : Contains u (UserToken.assemble validation access spare secret) w := by
  refine (contains_now u w).bind fun now v _ => ?_
  cases UserToken.ofValidation? validation access spare secret now with
  | some t => exact contains_pure _ _ _
  | none => exact contains_fail _ _ _

theorem UserToken.ofExisting_contains (hsound : w.Sound s) (h : Endpoint.Takes s.validateUrl [])
    {t : String} (ht : Text.isAscii t = true) (spare : Option RefreshToken)
    (secret : Option ClientSecret) :
    Contains w (UserToken.ofExisting (some ⟨t⟩) spare secret) w :=
  (Endpoint.validate_contains hsound h ht).bind fun validation v _ =>
    UserToken.assemble_contains w validation _ _ _ v

theorem AppToken.ofExisting_contains (hsound : w.Sound s) (h : Endpoint.Takes s.validateUrl [])
    {t : String} (ht : Text.isAscii t = true) (spare : Option RefreshToken)
    (secret : Option ClientSecret) :
    Contains w (AppToken.ofExisting (some ⟨t⟩) spare secret) w :=
  (Endpoint.validate_contains hsound h ht).bind fun _ _ _ =>
    (contains_now _ _).bind fun _ _ _ => contains_pure _ _ _

/-- A token that the last answer brought is validated, or the answer let out that it is not
ASCII. -/
theorem UserToken.taken_contains (hsound : w.Sound s) (h : Endpoint.Takes s.validateUrl [])
    {request : Http.Request} {answer : TokenAnswer}
    (hcall : call request .token w = (.ok answer, v)) (secret : Option ClientSecret) :
    Contains w (UserToken.ofAnswer answer secret) v := by
  obtain ⟨hex, ⟨a, hanswer, hread⟩, -⟩ := call_ok hcall
  have hsound' := hsound.after hex
  cases ht : Text.isAscii answer.accessToken.text with
  | true => exact (UserToken.ofExisting_contains hsound' h ht _ _).from hex
  | false =>
    have hvalidate : UserToken.ofAnswer answer secret v =
        (.error (.escape (.request .headerNotAscii)), v) :=
      bind_error (Endpoint.validate_not_ascii hsound' h ht)
    exact .of_escape hvalidate (.refl v) (.single hex (.token hanswer hread ht))

/-! ## Grants -/

theorem BrowserGrant.exchangeCode_contains (hsound : w.Sound s) {g : BrowserGrant}
    {secret : Option ClientSecret} {code : String}
    (h : Endpoint.TakesAll s.tokenUrl (g.exchangeParams secret code))
    (hvalidate : Endpoint.Takes s.validateUrl []) (state : String) :
    Contains w (g.exchangeCode secret (some state) code) w := by
  obtain ⟨params, hparams, htakes⟩ := h
  obtain ⟨request, hpost, hask⟩ := Endpoint.post_ok hsound htakes
  have hmade : g.exchangeRequest w.settings secret code = .ok request := by
    rw [hsound.settings, BrowserGrant.exchangeRequest, hparams]
    exact hpost
  have hstate : (fun _ => g.checkState (some state)) w.settings = .ok (g.stateIsValid state) := by
    simp [BrowserGrant.checkState]
  refine Contains.bind (contains_prepare hstate w) fun isValid w' hrun => ?_
  rw [prepare_ok hstate] at hrun
  cases hrun
  split
  · exact ask_contains hsound hmade hask .token fun answer v hcall =>
      ((UserToken.taken_contains hsound hvalidate hcall secret).mapFault _).bind fun _ _ _ =>
        (contains_note _ _ _ _ _).bind fun _ _ _ => contains_pure _ _ _
  · exact contains_fail _ _ _

theorem BrowserGrant.acceptToken_contains (hsound : w.Sound s) (g : BrowserGrant)
    {r : ImplicitRedirect} (hascii : ∀ t, r.accessToken = some t → Text.isAscii t.text = true)
    (hvalidate : Endpoint.Takes s.validateUrl []) : Contains w (g.acceptToken r) w := by
  unfold BrowserGrant.acceptToken
  split
  · cases haccess : r.accessToken with
    | none => exact contains_fail _ _ _
    | some access =>
      exact ((UserToken.ofExisting_contains hsound hvalidate (hascii access haccess) _ _).mapFault
        _).bind fun _ _ _ => (contains_note _ _ _ _ _).bind fun _ _ _ => contains_pure _ _ _
  · exact contains_fail _ _ _

namespace DeviceGrant

theorem askCodes_contains (hsound : w.Sound s) {g : DeviceGrant τ}
    (h : Endpoint.TakesAll s.deviceUrl g.startParams) : Contains w g.askCodes w := by
  obtain ⟨params, hparams, htakes⟩ := h
  obtain ⟨request, hpost, hask⟩ := Endpoint.post_ok hsound htakes
  have hmade : g.startRequest w.settings = .ok request := by
    rw [hsound.settings, startRequest, hparams]
    exact hpost
  exact ask_contains hsound hmade hask .deviceCodes fun _ _ _ =>
    (contains_now _ _).bind fun _ _ _ => (contains_note _ _ _ _ _).bind fun _ _ _ =>
      contains_pure _ _ _

theorem pollFault_contains (u : World σ τ) (f : CallFault) (w : World σ τ) :
    Contains u (pollFault f) w := by
  unfold pollFault
  split
  · split
    · exact contains_pure _ _ _
    · exact contains_fail _ _ _
  · exact contains_fail _ _ _

theorem pollWith_contains (hsound : w.Sound s) {g : DeviceGrant τ} {codes : DeviceCodes}
    (h : Endpoint.TakesAll s.tokenUrl (g.pollParams codes))
    (hvalidate : Endpoint.Takes s.validateUrl []) : Contains w (g.pollWith codes) w := by
  obtain ⟨params, hparams, htakes⟩ := h
  obtain ⟨request, hpost, hask⟩ := Endpoint.post_ok hsound htakes
  have hmade : g.pollRequest w.settings codes = .ok request := by
    rw [hsound.settings, pollRequest, hparams]
    exact hpost
  refine (contains_prepare hmade w).bind fun request' w' hrequest => ?_
  rw [prepare_ok hmade] at hrequest
  cases hrequest
  have hanswer : Contains w (askAnswer request : Flow (World σ τ) _ _) w :=
    ((call_contains hsound hask .token).bind fun _ _ _ => contains_pure _ _ _).handle fun f v =>
      pollFault_contains w f v
  refine hanswer.bind fun answer v hrun => ?_
  cases answer with
  | none => exact contains_pure _ _ _
  | some answer =>
    rcases askAnswer_ok_iff.1 hrun with ⟨_, hsome, hcall⟩ | ⟨hnone, -⟩
    · cases hsome
      exact ((UserToken.taken_contains hsound hvalidate hcall _).mapFault _).bind fun _ _ _ =>
        (contains_note _ _ _ _ _).bind fun _ _ _ => contains_pure _ _ _
    · cases hnone

end DeviceGrant

end Endpoints

/-! ## Kinds of fault -/

namespace OperationFault

/-- The kind of error that all faults of an operation are of. -/
def kind : OperationFault → ErrorKind
  | .validation _ => .validation
  | .revocation _ => .revocation
  | .refresh _ => .refresh
  | .credentials _ => .appToken
  | .code _ => .codeExchange
  | .redirect _ => .implicitExchange
  | .device _ => .deviceExchange

/-- A fault is of its kind: it is told as an error of that kind or of one below it. -/
theorem kind_isA (f : OperationFault) : (Diagnosable.diagnosis f).kind.isA f.kind = true := by
  have hbelow : ∀ k l : ErrorKind, k = l ∨ l ∈ k.parents → k.isA l = true := by
    rintro k l (rfl | h)
    · exact ErrorKind.isA_self k
    · exact ErrorKind.isA_of_parent h
  apply hbelow
  rcases f with f | f | f | f | f | f | f <;> cases f <;>
    first | exact .inl rfl | exact .inr (by decide)

end OperationFault

/-! ## Operations -/

namespace Operation

/-- The kind of error that an operation promises to fail with. A wait may also break off in a sleep,
and what a token asks for when it is refreshed is not told by its inputs. -/
def kind? : Operation σ τ → Option ErrorKind
  | .validate _ | .existingApp _ _ _ | .existingUser _ _ _ => some .validation
  | .revoke _ _ => some .revocation
  | .refresh _ _ _ => some .refresh
  | .obtain _ _ _ => some .appToken
  | .exchangeCode _ _ _ _ => some .codeExchange
  | .acceptToken _ _ => some .implicitExchange
  | .start _ | .poll _ => some .deviceExchange
  | .wait _ _ _ | .renew _ => none

/-- The credentials of an operation are there, those in header fields are ASCII, and its endpoints
take requests with them. -/
def InOrder (s : Settings) : Operation σ τ → Prop
  | .validate access | .existingApp access _ _ | .existingUser access _ _ =>
    (∃ t, access = some ⟨t⟩ ∧ Text.isAscii t = true) ∧ Endpoint.Takes s.validateUrl []
  | .revoke access client =>
    Endpoint.TakesAll s.revokeUrl (Endpoint.revocationParams access client)
  | .refresh token client secret =>
    Endpoint.TakesAll s.tokenUrl (Endpoint.refreshParams token client secret)
  | .obtain client secret scopes =>
    Endpoint.TakesAll s.tokenUrl (Endpoint.credentialsParams client secret scopes)
  | .exchangeCode g secret state code =>
    state.isSome = true ∧ Endpoint.TakesAll s.tokenUrl (g.exchangeParams secret code) ∧
      Endpoint.Takes s.validateUrl []
  | .acceptToken _ r =>
    (∀ t, r.accessToken = some t → Text.isAscii t.text = true) ∧ Endpoint.Takes s.validateUrl []
  | .start g => g.codes = none → Endpoint.TakesAll s.deviceUrl g.startParams
  | .poll g =>
    (∀ codes, g.codes = some codes → Endpoint.TakesAll s.tokenUrl (g.pollParams codes)) ∧
      Endpoint.Takes s.validateUrl []
  | .wait _ _ _ | .renew _ => True

open Bearer.Flow

theorem seenAs_contains {u w : World σ τ} {f : Flow (World σ τ) ε α} (h : Contains u f w)
    (onFault : ε → OperationFault) (onResult : α → OperationResult τ) :
    Contains u (f.seenAs onFault onResult) w :=
  (h.mapFault onFault).bind fun _ _ _ => contains_pure _ _ _

variable [Time.Clock τ] {op : Operation σ τ} {w : World σ τ} {s : Settings} {kind : ErrorKind}

/-- Out of an operation that is in order comes nothing but faults, unless an answer lets it out. -/
theorem run_contains (hsound : w.Sound s) (hop : op.InOrder s) (hkind : op.kind? = some kind) :
    Contains w op.run w := by
  cases op with
  | validate access =>
    obtain ⟨⟨t, rfl, ht⟩, hurl⟩ := hop
    exact seenAs_contains (Endpoint.validate_contains hsound hurl ht) _ _
  | existingApp access spare secret =>
    obtain ⟨⟨t, rfl, ht⟩, hurl⟩ := hop
    exact seenAs_contains (AppToken.ofExisting_contains hsound hurl ht _ _) _ _
  | existingUser access spare secret =>
    obtain ⟨⟨t, rfl, ht⟩, hurl⟩ := hop
    exact seenAs_contains (UserToken.ofExisting_contains hsound hurl ht _ _) _ _
  | revoke access client => exact seenAs_contains (Endpoint.revoke_contains hsound hop) _ _
  | refresh token client secret =>
    exact seenAs_contains (Endpoint.refresh_contains hsound hop) _ _
  | obtain client secret scopes =>
    exact seenAs_contains ((Endpoint.credentials_contains hsound hop).bind fun _ _ _ =>
      (contains_now _ _).bind fun _ _ _ => contains_pure _ _ _) _ _
  | exchangeCode g secret state code =>
    obtain ⟨hstate, htoken, hvalidate⟩ := hop
    obtain ⟨state, rfl⟩ := Option.isSome_iff_exists.1 hstate
    exact seenAs_contains (g.exchangeCode_contains hsound htoken hvalidate state) _ _
  | acceptToken g r => exact seenAs_contains (g.acceptToken_contains hsound hop.1 hop.2) _ _
  | start g =>
    refine seenAs_contains ?_ _ _
    rw [DeviceGrant.holding_start]
    cases hg : g.codes with
    | none => exact DeviceGrant.askCodes_contains hsound (hop hg)
    | some codes => exact contains_pure _ _ _
  | poll g =>
    refine seenAs_contains ?_ _ _
    rw [DeviceGrant.holding_poll]
    cases hg : g.codes with
    | none => exact contains_fail _ _ _
    | some codes => exact DeviceGrant.pollWith_contains hsound (hop.1 codes hg) hop.2
  | wait g sleeper limit => cases hkind
  | renew t => cases hkind

omit [Http.Server σ] [Time.Clock τ] in
theorem seenAs_fault {f : Flow (World σ τ) ε α} {onFault : ε → OperationFault}
    {onResult : α → OperationResult τ} {y : OperationFault}
    (h : (f.seenAs onFault onResult w).1 = .error (.fault y)) : ∃ x, onFault x = y := by
  rw [seenAs_apply] at h
  rcases hf : f w with ⟨(x | e) | a, v⟩ <;> rw [hf] at h <;> cases h
  exact ⟨x, rfl⟩

/-- The faults of an operation are of the kind that it promises. -/
theorem run_fault (hkind : op.kind? = some kind) {f : OperationFault}
    (h : (op.run w).1 = .error (.fault f)) : f.kind = kind := by
  cases op <;> cases hkind <;> obtain ⟨x, rfl⟩ := seenAs_fault h <;> rfl

/-- An operation that is in order, in a world that is sound, succeeds or fails with a fault of the
kind it promises, unless the last answer lets something else out. -/
theorem contained (hsound : w.Sound s) (hop : op.InOrder s) (hkind : op.kind? = some kind)
    {e : Failure OperationFault} (he : (op.run w).1 = .error e) :
    (∃ f, e = .fault f ∧ (Diagnosable.diagnosis f).kind.isA kind = true) ∨
      ∃ x, e = .escape x ∧ World.LetOut w (op.run w).2 x := by
  cases e with
  | fault f =>
    have hisA := f.kind_isA
    rw [run_fault hkind he] at hisA
    exact .inl ⟨f, rfl, hisA⟩
  | escape x => exact .inr ⟨x, rfl, (run_contains hsound hop hkind).escapes x he⟩

/-- The endpoint that validates tokens takes requests where it is unless it is set. -/
theorem takes_validate : Endpoint.Takes ({} : Settings).validateUrl [] :=
  ⟨⟨"https", "", "id.twitch.tv", none, "/oauth2/validate", none, none⟩, by decide +kernel,
    ⟨"id.twitch.tv", by decide +kernel⟩,
    ⟨⟨"https", "", "id.twitch.tv", none, "/oauth2/validate", none, none⟩, by decide +kernel⟩,
    by decide +kernel⟩

/-- A token that the server does not know. -/
theorem contained_unauthorized :
    let server : Http.Script := ⟨[("/oauth2/validate", [.answer ⟨401, [], []⟩])]⟩
    let w : World Http.Script Int := { server := server, client := .bare, settings := .ok {}, now := 0 }
    let op : Operation Http.Script Int := .validate (some ⟨"tok"⟩)
    w.Sound {} ∧ op.InOrder {} ∧
      ∃ e, (op.run w).1 = .error e ∧
        ((∃ f, e = .fault f ∧ (Diagnosable.diagnosis f).kind.isA .validation = true) ∨
          ∃ x, e = .escape x ∧ World.LetOut w (op.run w).2 x) := by
  intro server w op
  have hsound : w.Sound {} :=
    ⟨rfl, fun _ => rfl, Http.Script.never_crashes (by decide)⟩
  have hop : op.InOrder {} := ⟨⟨"tok", rfl, by decide⟩, takes_validate⟩
  have he : (op.run w).1 = .error (.fault (.validation .notAuthorized)) := by decide +kernel
  exact ⟨hsound, hop, _, he, contained hsound hop rfl he⟩

/-- Not all that comes out is a fault: here the scopes of the answer are a number. -/
theorem not_contained_scopes :
    ¬∀ (s : Settings) (w : World Http.Script Int) (op : Operation Http.Script Int) (kind : ErrorKind),
      w.Sound s → op.InOrder s → op.kind? = some kind → ∀ e, (op.run w).1 = .error e →
        ∃ f, e = .fault f ∧ (Diagnosable.diagnosis f).kind.isA kind = true := by
  intro h
  let body := Text.Utf8.encode "\x7b\x22client_id\x22:\x22cid\x22,\x22scopes\x22:5\x7d".toList
  let server : Http.Script := ⟨[("/oauth2/validate", [.answer ⟨200, [], body⟩])]⟩
  let w : World Http.Script Int := { server := server, client := .bare, settings := .ok {}, now := 0 }
  have hsound : w.Sound {} :=
    ⟨rfl, fun _ => rfl, Http.Script.never_crashes (by decide)⟩
  have hop : (validate (some ⟨"tok"⟩) : Operation Http.Script Int).InOrder {} :=
    ⟨⟨"tok", rfl, by decide⟩, takes_validate⟩
  have he : ((validate (some ⟨"tok"⟩) : Operation Http.Script Int).run w).1 =
      .error (.escape (.shape (.noLength "int"))) := by decide +kernel
  obtain ⟨f, hf, -⟩ := h {} w (.validate (some ⟨"tok"⟩)) .validation hsound hop rfl _ he
  cases hf

end Operation

end Bearer
