import Bearer.Proofs.Flow.Cases
import Bearer.Proofs.Token.Alone

/-!
# What flows keep

A flow that does not sleep changes its world in two ways: it writes to the log, and it has requests
answered. A relation between worlds that holds over both of these, over nothing at all and over one
thing after another holds from the beginning of such a flow to its end, whatever comes of it.

* `Keeps.bind`, `Keeps.mapFault`, `Keeps.handle`: flows that are made of flows.
* `keeps_send`, `keeps_call`: a request, and a request whose answer is a record.
* `Token.keeps_refreshed`: a refresh of either type of token.
-/
namespace Bearer

variable {σ τ ε δ α β : Type}

/-- A relation that holds over whatever a flow does but sleep. -/
structure World.Lasts (R : World σ τ → World σ τ → Prop) : Prop where
  refl (w : World σ τ) : R w w
  trans {u v w : World σ τ} : R u v → R v w → R u w
  logged (w : World σ τ) (l : Logging.Record) : R w (w.logged l)
  answered (w : World σ τ) (server : σ) (sent : Trail Http.Request) :
    R w { w with server := server, sent := sent, now := w.answerTime }

namespace Flow

/-- The relation holds from the beginning of the flow to its end. -/
def Keeps (R : World σ τ → World σ τ → Prop) (f : Flow (World σ τ) ε α) : Prop :=
  ∀ w, R w (f w).2

variable {R : World σ τ → World σ τ → Prop}

theorem Keeps.bind (hR : World.Lasts R) {f : Flow (World σ τ) ε α} {g : α → Flow (World σ τ) ε β}
    (hf : Keeps R f) (hg : ∀ a, Keeps R (g a)) : Keeps R (f >>= g) := by
  intro w
  have hfw := hf w
  rcases hr : f w with ⟨e | a, v⟩ <;> rw [hr] at hfw
  · rw [bind_error hr]
    exact hfw
  · rw [bind_ok hr]
    exact hR.trans hfw (hg a v)

theorem Keeps.handle (hR : World.Lasts R) {f : Flow (World σ τ) ε α}
    {g : ε → Flow (World σ τ) δ α} (hf : Keeps R f) (hg : ∀ e, Keeps R (g e)) :
    Keeps R (f.handle g) := by
  intro w
  have hfw := hf w
  unfold Flow.handle
  rcases hr : f w with ⟨(e | e) | a, v⟩ <;> rw [hr] at hfw
  · exact hR.trans hfw (hg e v)
  · exact hfw
  · exact hfw

theorem Keeps.mapFault {f : Flow (World σ τ) ε α} (hf : Keeps R f) (g : ε → δ) :
    Keeps R (f.mapFault g) := by
  intro w
  rw [mapFault_apply]
  exact hf w

/-! ## Flows without a request -/

theorem keeps_pure (hR : World.Lasts R) (a : α) : Keeps R (pure a : Flow (World σ τ) ε α) :=
  hR.refl

theorem keeps_fail (hR : World.Lasts R) (e : ε) : Keeps R (fail e : Flow (World σ τ) ε α) :=
  hR.refl

theorem keeps_escape (hR : World.Lasts R) (e : Escape) :
    Keeps R (escape e : Flow (World σ τ) ε α) :=
  hR.refl

theorem keeps_now (hR : World.Lasts R) : Keeps R (now : Flow (World σ τ) ε τ) :=
  hR.refl

theorem keeps_note (hR : World.Lasts R) (level : Logging.Level) (part message : String) :
    Keeps R (note level part message : Flow (World σ τ) ε Unit) :=
  fun w => hR.logged w _

theorem keeps_prepare (hR : World.Lasts R) (make : Answer.Loaded → Except Escape α) :
    Keeps R (prepare make : Flow (World σ τ) ε α) :=
  hR.refl

theorem keeps_accept (hR : World.Lasts R) (k : RecordKind α) (r : Http.Response) :
    Keeps R (accept k r : Flow (World σ τ) AnswerFault α) :=
  hR.refl

theorem keeps_place (hR : World.Lasts R) (r : Http.Request) :
    Keeps R (place r : Flow (World σ τ) ε String) := by
  unfold place
  split
  · exact keeps_pure hR _
  · exact keeps_escape hR _

variable [Http.Server σ]

/-! ## Requests -/

theorem keeps_exchange (hR : World.Lasts R) (r : Http.Request) :
    Keeps R (exchange r : Flow (World σ τ) ε Http.Reply) := by
  intro w
  unfold exchange
  split
  · exact hR.answered w _ _
  · exact hR.refl w

theorem keeps_send (hR : World.Lasts R) (r : Http.Request) :
    Keeps R (send r : Flow (World σ τ) SendFault Http.Response) := by
  refine (keeps_place hR r).bind hR fun place => (keeps_note hR _ _ _).bind hR fun _ =>
    (keeps_exchange hR r).bind hR fun reply => ?_
  cases reply with
  | answer a => exact (keeps_note hR _ _ _).bind hR fun _ => keeps_pure hR a
  | failure f => exact keeps_fail hR _
  | crash name => exact keeps_escape hR _

theorem keeps_call (hR : World.Lasts R) (r : Http.Request) (k : RecordKind α) :
    Keeps R (call r k : Flow (World σ τ) CallFault α) :=
  ((keeps_send hR r).mapFault _).bind hR fun a => (keeps_accept hR k a).mapFault _

end Flow

open Bearer.Flow

variable {R : World σ τ → World σ τ → Prop}

theorem Token.keeps_ensure (hR : World.Lasts R) (t : Token τ) (r : Requirement) :
    Keeps R (t.ensure r : Flow (World σ τ) MissingScopesFault Unit) := by
  unfold Token.ensure
  split
  · exact keeps_pure hR ()
  · exact (keeps_note hR _ _ _).bind hR fun _ => keeps_fail hR _

variable [Http.Server σ]

/-! ## Endpoints -/

namespace Endpoint

theorem keeps_validate (hR : World.Lasts R) (access : Option AccessToken) :
    Keeps R (validate access : Flow (World σ τ) ValidationFault Validation) := by
  refine (keeps_prepare hR _).bind hR fun r => ((keeps_send hR r).mapFault _).bind hR fun a => ?_
  split
  · exact keeps_fail hR _
  · exact ((keeps_accept hR _ a).mapFault _).bind hR fun v => (keeps_note hR _ _ _).bind hR fun _ =>
      keeps_pure hR v

theorem keeps_revoke (hR : World.Lasts R) (access : Option AccessToken) (client : Option ClientId) :
    Keeps R (revoke access client : Flow (World σ τ) RevocationFault Unit) := by
  refine (keeps_prepare hR _).bind hR fun r => ((keeps_send hR r).mapFault _).bind hR fun a => ?_
  split
  · exact keeps_fail hR _
  · exact keeps_note hR _ _ _

theorem keeps_refresh (hR : World.Lasts R) (spare : Option RefreshToken) (client : Option ClientId)
    (secret : Option ClientSecret) :
    Keeps R (refresh spare client secret : Flow (World σ τ) RefreshFault Refreshed) := by
  refine (keeps_prepare hR _).bind hR fun r => ((keeps_call hR r _).mapFault _).bind hR
    fun answer => ?_
  split
  · exact keeps_fail hR _
  · exact (keeps_note hR _ _ _).bind hR fun _ => keeps_pure hR _

theorem keeps_credentials (hR : World.Lasts R) (client : Option ClientId)
    (secret : Option ClientSecret) (scopes : List Scope) :
    Keeps R (credentials client secret scopes : Flow (World σ τ) CredentialsFault TokenAnswer) :=
  (keeps_prepare hR _).bind hR fun r => ((keeps_call hR r _).mapFault _).bind hR fun answer =>
    (keeps_note hR _ _ _).bind hR fun _ => keeps_pure hR answer

end Endpoint

/-! ## Tokens -/

theorem AppToken.keeps_obtain (hR : World.Lasts R) (client : Option ClientId)
    (secret : Option ClientSecret) (scopes : List Scope) :
    Keeps R (obtain client secret scopes : Flow (World σ τ) CredentialsFault (AppToken τ)) :=
  (Endpoint.keeps_credentials hR client secret scopes).bind hR fun _ =>
    (keeps_now hR).bind hR fun _ => keeps_pure hR _

theorem AppToken.keeps_refreshed (hR : World.Lasts R) (t : AppToken τ) :
    Keeps R (t.refreshed : Flow (World σ τ) RefreshFault (AppToken τ)) := by
  unfold AppToken.refreshed
  split
  · exact (Endpoint.keeps_refresh hR _ _ _).bind hR fun _ => (keeps_now hR).bind hR fun _ =>
      keeps_pure hR _
  · exact ((keeps_obtain hR _ _ _).mapFault _).bind hR fun _ => keeps_pure hR _

theorem UserToken.keeps_refreshed (hR : World.Lasts R) (t : UserToken τ) :
    Keeps R (t.refreshed : Flow (World σ τ) RefreshFault (UserToken τ)) := by
  unfold UserToken.refreshed
  split
  · exact keeps_fail hR _
  · exact (Endpoint.keeps_refresh hR _ _ _).bind hR fun _ => (keeps_now hR).bind hR fun _ =>
      keeps_pure hR _

theorem Token.keeps_refreshed (hR : World.Lasts R) (t : Token τ) :
    Keeps R (t.refreshed : Flow (World σ τ) RefreshFault (Token τ)) := by
  cases t with
  | app a => exact (a.keeps_refreshed hR).bind hR fun _ => keeps_pure hR _
  | user u => exact (u.keeps_refreshed hR).bind hR fun _ => keeps_pure hR _

theorem UserToken.keeps_ofExisting (hR : World.Lasts R) (access : Option AccessToken)
    (spare : Option RefreshToken) (secret : Option ClientSecret) :
    Keeps R (ofExisting access spare secret : Flow (World σ τ) ValidationFault (UserToken τ)) := by
  refine (Endpoint.keeps_validate hR access).bind hR fun v => (keeps_now hR).bind hR fun now => ?_
  split
  · exact keeps_pure hR _
  · exact keeps_fail hR _

end Bearer
