import Bearer.Http.Client
import Bearer.Http.Script
import Bearer.Proofs.Flow.Cases
import Bearer.Proofs.Secrecy.Urls

/-!
# Requests that look alike

Two requests look alike if they differ in the values of their header fields and in the queries of
their URLs alone. A client takes requests that look alike alike: it can send both or neither, it
prepares them alike, and what it makes of a reply is the same for both. Only where an answer
redirects may the place come out too long for one of them.

* `make_looksLike`: requests with other parameters and other values of fields.
* `canSend_looksLike`, `prepare_looksLike`: what a client does before it sends.
* `check_alike`, `receive_alike`: what it does with a reply.
-/
namespace Bearer.Http

open Url (SameFront SameButQuery)

/-! ## Header fields -/

namespace Headers

/-- Header fields with the same names in the same order. -/
def SameNames (hs gs : Headers) : Prop :=
  hs.map Prod.fst = gs.map Prod.fst

variable {hs gs : Headers}

theorem values_isEmpty (hs : Headers) (name : String) :
    (hs.values name).isEmpty = !(hs.map Prod.fst).contains name := by
  induction hs with
  | nil => rfl
  | cons f hs ih =>
    by_cases h : f.1 = name
    · simp [values, h]
    · simp [values, h, ih, Ne.symm h]

theorem SameNames.has (h : SameNames hs gs) (name : String) : hs.has name = gs.has name := by
  unfold Headers.has
  rw [values_isEmpty, values_isEmpty, h]

theorem SameNames.setDefault (h : SameNames hs gs) (name value : String) :
    SameNames (hs.setDefault name value) (gs.setDefault name value) := by
  unfold Headers.setDefault
  rw [h.has]
  split
  · exact h
  · simpa [SameNames] using h

theorem without_names (hs : Headers) (name : String) :
    (hs.without name).map Prod.fst = (hs.map Prod.fst).filter (· ≠ name) := by
  induction hs with
  | nil => rfl
  | cons f hs ih => by_cases h : f.1 = name <;> simp_all [without]

theorem SameNames.set (h : SameNames hs gs) (name value : String) :
    SameNames (hs.set name value) (gs.set name value) := by
  unfold SameNames Headers.set
  rw [List.map_append, List.map_append, without_names, without_names, h]

theorem SameNames.ofFields (h : SameNames hs gs) : SameNames (ofFields hs) (ofFields gs) := by
  have hnames : ∀ hs : Headers, (Headers.ofFields hs).map Prod.fst = (hs.map Prod.fst).map Text.lower :=
    fun hs => by simp [Headers.ofFields]
  unfold SameNames
  rw [hnames, hnames, h]

theorem SameNames.withLength (h : SameNames hs gs) (method : String) (body : List UInt8) :
    SameNames (hs.withLength method body) (gs.withLength method body) := by
  unfold Headers.withLength
  rw [h.has]
  split
  · exact h.setDefault _ _
  · split
    · exact h.setDefault _ _
    · exact h

end Headers

end Bearer.Http

namespace Bearer

namespace Url

variable {u v : Url}

theorem SameButQuery.front (h : SameButQuery u v) : SameFront u v := by
  cases h with
  | same => exact .refl u
  | query => exact ⟨rfl, rfl, rfl, rfl, rfl, rfl⟩

theorem SameButQuery.fragment (h : SameButQuery u v) : u.fragment = v.fragment := by
  cases h <;> rfl

theorem SameFront.netloc (h : SameFront u v) : u.netloc = v.netloc := by
  unfold Url.netloc Url.hostText Url.portText
  rw [h.host, h.port]

theorem SameFront.plainHost (h : SameFront u v) : u.plainHost = v.plainHost := by
  unfold Url.plainHost
  rw [h.host]

theorem SameFront.plainPath (h : SameFront u v) : u.plainPath = v.plainPath := by
  unfold Url.plainPath
  rw [h.path]

/-- URLs with the same front get another fragment alike. -/
theorem SameFront.withFragment (h : SameFront u v) (fragment : Option String) :
    Alike InvalidUrl.IsTooLong SameFront (u.withFragment fragment) (v.withFragment fragment) := by
  unfold Url.withFragment
  split
  · split
    · refine .ok ⟨h.scheme, h.userinfo, ?_, ?_, h.path, rfl⟩
      · simp only [renormalized, h.host]
      · simp only [renormalized, h.scheme, h.port]
    · exact .right InvalidUrl.isTooLong _
  · exact .left InvalidUrl.isTooLong _

end Url

namespace Http

open Url (SameFront SameButQuery)

/-! ## Redirects -/

/-- The place that an answer redirects to is too long. -/
def RedirectFault.IsTooLong (e : RedirectFault) : Prop :=
  e = .request (.url .tooLong)

/-- A URL of a request, or one that it is redirected to, is too long. -/
def RequestFault.IsTooLong (e : RequestFault) : Prop :=
  e = .url .tooLong

theorem RequestFault.isTooLong : RequestFault.IsTooLong (.url .tooLong) := rfl

namespace Redirect

variable {u v source source' : Url}

theorem made_alike {R : Url → Url → Prop} {x y : Except InvalidUrl Url}
    (h : Alike InvalidUrl.IsTooLong R x y) : Alike RedirectFault.IsTooLong R (made x) (made y) :=
  h.mapError fun e he => by
    cases he
    rfl

theorem hostOf_alike (h : SameFront u v) : hostOf u = hostOf v := by
  unfold hostOf
  rw [h.plainHost]

theorem completed_alike (h : SameFront source source') (u : Url) :
    completed source u = completed source' u := by
  unfold completed
  rw [hostOf_alike h]

theorem withHost_fragment {host : String} (h : u.withHost host = .ok v) :
    v.fragment = u.fragment := by
  unfold Url.withHost at h
  split at h
  · cases h
  · obtain ⟨name, -, h⟩ := bind_eq_ok h
    obtain ⟨-, -, h⟩ := bind_eq_ok h
    cases h
    rfl

theorem completed_fragment (h : completed source u = .ok v) : v.fragment = u.fragment := by
  obtain ⟨host, -, h⟩ := bind_eq_ok h
  split at h
  · cases h
    rfl
  · obtain ⟨host', -, h⟩ := bind_eq_ok h
    exact withHost_fragment (Flow.mapError_eq_ok_iff.1 h)

theorem withFragmentOf_alike (hsource : source.fragment = source'.fragment) (h : SameFront u v) :
    Alike RedirectFault.IsTooLong SameFront (withFragmentOf source u) (withFragmentOf source' v) := by
  unfold withFragmentOf
  rw [hsource, h.fragment]
  split
  · exact .ok h
  · exact made_alike (h.withFragment _)

/-- Where an answer leads does not depend on the query of the request, unless it is too long. -/
theorem target_alike (h : SameButQuery source source') (place : String) :
    Alike RedirectFault.IsTooLong SameFront (target source place) (target source' place) := by
  unfold target
  rw [funext (completed_alike h.front)]
  cases hplace : Url.parse place with
  | error e => exact .error _
  | ok p =>
    cases hcompleted : completed source' p with
    | error e =>
      simp only [Flow.mapError_ok, bind, Except.bind, hcompleted]
      exact .error _
    | ok u =>
      have hclean : u.HasCleanFragment := by
        unfold Url.HasCleanFragment
        rw [completed_fragment hcompleted]
        exact Url.parse_fragment hplace
      simp only [Flow.mapError_ok, bind, Except.bind, hcompleted]
      split
      · exact withFragmentOf_alike h.fragment (.refl u)
      · exact (made_alike (Url.resolve_alike h hclean)).bind fun _ _ =>
          withFragmentOf_alike h.fragment

theorem compareHosts_alike {u' v' : Url} (h : SameFront u u') (h' : SameFront v v') :
    compareHosts u v = compareHosts u' v' := by
  unfold compareHosts
  rw [h.scheme, h'.scheme]
  by_cases hscheme : u'.scheme = v'.scheme
  · simp only [if_pos hscheme, hostOf_alike h, hostOf_alike h']
  · simp only [if_neg hscheme, hostOf_alike h, hostOf_alike h']

theorem check_alike {r r' : Request} (h : SameButQuery r.url r'.url) (a : Response) :
    Alike RedirectFault.IsTooLong Eq (check r a) (check r' a) := by
  unfold check
  split
  · split
    · exact .ok rfl
    · exact (target_alike h _).bind fun _ _ htarget => .of_eq (compareHosts_alike htarget h.front)
  · exact .ok rfl

end Redirect

/-! ## Requests -/

/-- Two requests that differ in the values of their header fields and in the queries of their URLs
alone. -/
structure Request.LooksLike (r r' : Request) : Prop where
  method : r.method = r'.method
  url : SameButQuery r.url r'.url
  headers : r.headers.SameNames r'.headers
  body : r.body = r'.body

namespace Request

theorem checkHost_looksLike {hs gs : Headers} (h : hs.SameNames gs) {u v : Url}
    (huv : SameButQuery u v) : hs.checkHost u = gs.checkHost v := by
  unfold Headers.checkHost
  rw [h.has, huv.front.plainHost]

theorem withHost_looksLike {hs gs : Headers} (h : hs.SameNames gs) {u v : Url}
    (huv : SameButQuery u v) : (hs.withHost u).SameNames (gs.withHost v) := by
  unfold Headers.withHost
  rw [huv.front.host, huv.front.netloc]
  split
  · exact h
  · exact h.setDefault _ _

/-- Requests are made alike with other parameters and with other values of the same fields, unless
the URL of one is too long. -/
theorem make_looksLike (method url : String) {ps ps' : List Url.Form.Param}
    (hps : ps.isEmpty = ps'.isEmpty) {fields fields' : List (String × String)}
    (hfields : Headers.SameNames fields fields')
    (hascii : Headers.areAscii fields = Headers.areAscii fields') (body : List UInt8) :
    Alike RequestFault.IsTooLong LooksLike (make method url ps fields body)
      (make method url ps' fields' body) := by
  have htarget : Alike InvalidUrl.IsTooLong SameButQuery
      ((Url.parse url).bind fun u => u.withParams ps)
      ((Url.parse url).bind fun u => u.withParams ps') := by
    cases hparse : Url.parse url with
    | error e => exact .error e
    | ok u => exact Url.withParams_alike (Url.parse_fragment hparse) hps
  have hheaders := hfields.ofFields.setDefault "accept" "application/json"
  unfold make
  rw [hascii]
  generalize ((Url.parse url).bind fun u => u.withParams ps) = x at htarget
  generalize ((Url.parse url).bind fun u => u.withParams ps') = y at htarget
  cases htarget with
  | left he y =>
    cases he
    exact .left RequestFault.isTooLong _
  | right he x =>
    cases he
    exact .right RequestFault.isTooLong _
  | error e => exact .error _
  | ok huv =>
    simp only
    rw [checkHost_looksLike hheaders huv]
    split
    · exact (Alike.of_eq rfl).map fun _ _ _ =>
        ⟨rfl, huv, withHost_looksLike (hheaders.withLength _ _) huv, rfl⟩
    · exact .error _

end Request

/-! ## Clients -/

namespace Client

theorem canSend_looksLike {r r' : Request} (h : r.LooksLike r') (c : Client) :
    c.canSend r = c.canSend r' := by
  cases c with
  | agent name => simp only [canSend, h.headers.has]
  | bare => rfl
  | custom => rfl

theorem authorized_looksLike {r r' : Request} (h : r.LooksLike r') :
    (authorized r).LooksLike (authorized r') := by
  unfold authorized
  rw [h.url.front.userinfo]
  split
  · exact ⟨h.method, h.url, h.headers.set _ _, h.body⟩
  · exact h

theorem prepare_looksLike {r r' : Request} (h : r.LooksLike r') (c : Client) :
    (c.prepare r).LooksLike (c.prepare r') := by
  cases c with
  | agent name =>
    exact authorized_looksLike ⟨h.method, h.url, h.headers.setDefault _ _, h.body⟩
  | bare => exact authorized_looksLike h
  | custom => exact h

/-- What is put behind a front has no part in where the first end is, if there is none in it. -/
theorem firstEnd_append (front : List Char) {q q' : List Char} {p : Char → Bool}
    (hq : ∀ c ∈ q, p c = true) (hq' : ∀ c ∈ q', p c = true) (hne : q ≠ []) (hne' : q' ≠ []) :
    ((front ++ q).takeWhile p).isEmpty = ((front ++ q').takeWhile p).isEmpty ∧
      ((front ++ q).dropWhile p).head? = ((front ++ q').dropWhile p).head? := by
  induction front with
  | nil =>
    rw [List.nil_append, List.nil_append, List.takeWhile_eq_self_iff.2 hq,
      List.takeWhile_eq_self_iff.2 hq', List.dropWhile_eq_nil_iff.2 hq,
      List.dropWhile_eq_nil_iff.2 hq']
    exact ⟨by rw [List.isEmpty_eq_false_iff.2 hne, List.isEmpty_eq_false_iff.2 hne'], rfl⟩
  | cons c front ih =>
    by_cases hc : p c = true
    · simp [hc, ih.2]
    · simp [hc]

theorem keepsCookies_looksLike {u v : Url} (h : SameButQuery u v) :
    keepsCookies u = keepsCookies v := by
  cases h with
  | same => rfl
  | @query q q' hu hq hq' =>
    have hplain : ∀ {q : String}, Url.IsPlain q.toList →
        ∀ c ∈ '?' :: q.toList, (!(c = '/' || c = ':' : Bool)) = true := fun {q} hq c hc => by
      rcases List.mem_cons.1 hc with rfl | hc
      · rfl
      · obtain ⟨-, hslash, hcolon, -⟩ := hq c hc
        simp [hslash, hcolon]
    have hself : ({ u with fragment := none } : Url) =
        { u with query := some q, fragment := none } := by rw [← hu]
    have hkeeps := fun front => firstEnd_append front (hplain hq) (hplain hq')
      (List.cons_ne_nil _ _) (List.cons_ne_nil _ _)
    unfold keepsCookies
    simp only
    rw [hself, Url.text_of_query { u with fragment := none } q,
      Url.text_of_query { u with fragment := none } q']
    simp only [show "".toList = [] from rfl, List.append_nil]
    rw [(hkeeps _).1, (hkeeps _).2]

theorem handOver_alike {r r' : Request} (h : r.LooksLike r') (c : Client) (a : Response) :
    Alike RequestFault.IsTooLong Eq (c.handOver r a) (c.handOver r' a) := by
  unfold handOver
  rw [keepsCookies_looksLike h.url]
  split
  · exact .ok rfl
  split
  · exact .error _
  have hcheck := Redirect.check_alike h.url a
  generalize Redirect.check r a = x at hcheck
  generalize Redirect.check r' a = y at hcheck
  cases hcheck with
  | left he y =>
    cases he
    exact .left RequestFault.isTooLong _
  | right he x =>
    cases he
    exact .right RequestFault.isTooLong _
  | error e => exact .refl (fun _ => rfl) _
  | ok h => exact .ok rfl

/-- What a client makes of a reply does not depend on the query and the fields of the request. -/
theorem receive_alike {r r' : Request} (h : r.LooksLike r') (c : Client) (reply : Reply) :
    Alike RequestFault.IsTooLong Eq (c.receive r reply) (c.receive r' reply) := by
  cases reply with
  | answer a =>
    simp only [receive]
    cases a.decoded with
    | ok a => exact handOver_alike h c a
    | error f => exact .ok rfl
  | failure f => exact .ok rfl
  | crash name => exact .ok rfl

end Client

/-! ## Servers -/

/-- A server that replies to requests that look alike as if they were the same. -/
def Server.IsBlind (σ : Type) [Server σ] : Prop :=
  ∀ (s : σ) (r r' : Request), r.LooksLike r' → Server.reply s r = Server.reply s r'

/-- A script goes by the path alone. -/
theorem Script.isBlind : Server.IsBlind Script := by
  intro s r r' h
  simp only [Server.reply, h.url.front.plainPath]

end Http

end Bearer
