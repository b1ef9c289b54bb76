import Bearer.Endpoint.Request
import Bearer.Http.Client

/-!
# What requests carry

All that a request is made of can be told from it: its method and its body are those given, its URL
is that of the endpoint with the parameters merged in, and its header fields hold what was given and
nothing of the parameters. So requests that post other parameters to the same endpoint differ in the
queries of their URLs alone, also when a client has prepared them.

A token is shown in a header field. A client that is not custom puts the credentials that stand in a
URL in its place.

* `make_parts`: all that a request is made of.
* `get_authorization`, `value?_prepare`: where a token is shown, and what stands there when it is
  sent.
* `post_differsInQuery`, `DiffersInQuery.prepare`: requests with other parameters.
-/
namespace Bearer.Http

namespace Headers

theorem value?_setDefault_of_ne (hs : Headers) {name other : String} (value : String)
    (h : other ≠ name) : (hs.setDefault name value).value? other = hs.value? other := by
  unfold setDefault
  split
  · rfl
  · simp [value?, values_append, values, Ne.symm h]

theorem value?_withLength_of_ne (hs : Headers) (method : String) (body : List UInt8) {other : String}
    (h : other ≠ "content-length") : (hs.withLength method body).value? other = hs.value? other := by
  unfold withLength
  split
  · exact value?_setDefault_of_ne hs _ h
  · split
    · exact value?_setDefault_of_ne hs _ h
    · rfl

theorem value?_withHost_of_ne (hs : Headers) (u : Url) {other : String} (h : other ≠ "host") :
    (hs.withHost u).value? other = hs.value? other := by
  unfold withHost
  split
  · rfl
  · exact value?_setDefault_of_ne hs _ h

/-- A name has a value if there is one to be read. -/
theorem has_eq_isSome (hs : Headers) (name : String) : hs.has name = (hs.value? name).isSome := by
  unfold has value?
  cases hs.values name <;> rfl

end Headers

/-! ## Making requests -/

namespace Request

variable {method endpoint : String} {params : List Url.Form.Param} {fields : List (String × String)}
  {body : List UInt8} {r r' : Request}

/-- The header fields that a request has that is made with some. -/
def fieldsFor (method : String) (fields : List (String × String)) (body : List UInt8) (u : Url) :
    Headers :=
  (((Headers.ofFields fields).setDefault "accept" "application/json").withLength (Text.upper method)
    body).withHost u

/-- The fields that are given are the only ones but those that every request has. -/
theorem value?_fieldsFor (method : String) (fields : List (String × String)) (body : List UInt8)
    (u : Url) {name : String} (haccept : name ≠ "accept") (hlength : name ≠ "content-length")
    (hhost : name ≠ "host") :
    (fieldsFor method fields body u).value? name = (Headers.ofFields fields).value? name := by
  rw [fieldsFor, Headers.value?_withHost_of_ne _ _ hhost,
    Headers.value?_withLength_of_ne _ _ _ hlength, Headers.value?_setDefault_of_ne _ _ haccept]

/-- What it takes to make a request, and all that it is made of. -/
theorem make_eq_ok_iff : make method endpoint params fields body = .ok r ↔
    ((Url.parse endpoint).bind fun u => u.withParams params) = .ok r.url ∧
      Headers.areAscii fields = true ∧
      ((Headers.ofFields fields).setDefault "accept" "application/json").checkHost r.url = .ok () ∧
      r.method = Text.upper method ∧ r.headers = fieldsFor method fields body r.url ∧
      r.body = body := by
  obtain ⟨method', url, headers, body'⟩ := r
  unfold make
  cases hu : (Url.parse endpoint).bind fun u => u.withParams params with
  | error e => simp
  | ok u =>
    by_cases hascii : Headers.areAscii fields = true
    · cases hc : ((Headers.ofFields fields).setDefault "accept" "application/json").checkHost u with
      | error e =>
        simp only [hascii, if_true, hc, Except.map, reduceCtorEq, Except.ok.injEq, false_iff]
        rintro ⟨rfl, -, hok, -⟩
        rw [hc] at hok
        cases hok
      | ok a =>
        simp only [hascii, if_true, hc, Except.map, Except.ok.injEq, Request.mk.injEq, true_and]
        constructor
        · rintro ⟨rfl, rfl, rfl, rfl⟩
          exact ⟨rfl, hc, rfl, rfl, rfl⟩
        · rintro ⟨rfl, -, rfl, rfl, rfl⟩
          exact ⟨rfl, rfl, rfl, rfl⟩
    · simp [hascii]

/-- All that a request is made of. -/
theorem make_parts (h : make method endpoint params fields body = .ok r) :
    r.method = Text.upper method ∧ r.headers = fieldsFor method fields body r.url ∧
      r.body = body := by
  obtain ⟨-, -, -, hparts⟩ := make_eq_ok_iff.1 h
  exact hparts

/-- A request that shows a token. -/
theorem get_authorization {token : AccessToken}
    (h : get endpoint [("Authorization", "OAuth " ++ token.text)] = .ok r) :
    r.method = "GET" ∧ Url.parse endpoint = .ok r.url ∧ r.body = [] ∧
      r.headers.value? "authorization" = some ("OAuth " ++ token.text) := by
  have hmethod : Text.upper "GET" = "GET" := by decide +kernel
  have hname : Text.lower "Authorization" = "authorization" := by decide +kernel
  obtain ⟨hget, hheaders, hbody⟩ := make_parts h
  refine ⟨hget.trans hmethod, ?_, hbody, ?_⟩
  · have hurl := make_url h
    cases hu : Url.parse endpoint with
    | error e =>
      rw [hu] at hurl
      cases hurl
    | ok u =>
      rw [hu] at hurl
      exact hurl
  · rw [hheaders, value?_fieldsFor _ _ _ _ (by decide) (by decide) (by decide)]
    simp [Headers.ofFields, Headers.value?, Headers.values, hname]

/-- Two requests that differ in the queries of their URLs alone. -/
def DiffersInQuery (r r' : Request) : Prop :=
  r' = { r with url := { r.url with query := r'.url.query } }

/-- Parameters change nothing but the query of the URL of an endpoint. -/
theorem withParams_eq {u v : Url} (hne : params ≠ []) (h : u.withParams params = .ok v) :
    v = { u.renormalized with query := v.query } := by
  unfold Url.withParams Url.withQuery at h
  rw [if_neg (by simpa using hne)] at h
  simp only at h
  split at h
  · cases h
    rfl
  · cases h

/-- Requests that post other parameters to the same endpoint. -/
theorem post_differsInQuery {params' : List Url.Form.Param} (hne : params ≠ []) (hne' : params' ≠ [])
    (h : post endpoint params = .ok r) (h' : post endpoint params' = .ok r') :
    r.DiffersInQuery r' := by
  have hurl := make_url h
  have hurl' := make_url h'
  obtain ⟨hmethod, hheaders, hbody⟩ := make_parts h
  obtain ⟨hmethod', hheaders', hbody'⟩ := make_parts h'
  cases hu : Url.parse endpoint with
  | error e =>
    rw [hu] at hurl
    cases hurl
  | ok u =>
    rw [hu] at hurl hurl'
    have hself : r.url = { u.renormalized with query := r.url.query } := withParams_eq hne hurl
    have hself' : r'.url = { u.renormalized with query := r'.url.query } := withParams_eq hne' hurl'
    have hsame : r'.url = { r.url with query := r'.url.query } := by rw [hself, ← hself']
    -- the host is the same, whatever the query is
    have hhost : r'.headers = r.headers := by
      rw [hheaders, hheaders', hself, hself']
      rfl
    obtain ⟨method', url', headers', body'⟩ := r'
    simp only [DiffersInQuery, Request.mk.injEq]
    exact ⟨hmethod'.trans hmethod.symm, hsame, hhost, hbody'.trans hbody.symm⟩

end Request

/-! ## Sending them -/

namespace Client

/-- What stands where a token is shown when a client sends a request to a URL: the token, or the
credentials of the URL if it has any and the client is not custom. -/
def shown (c : Client) (url : Url) (token : AccessToken) : String :=
  if c ≠ .custom ∧ hasCredentials url.userinfo = true then basicCredentials url.userinfo
  else "OAuth " ++ token.text

theorem value?_authorized {r : Request} {value : String}
    (h : r.headers.value? "authorization" = some value) :
    (authorized r).headers.value? "authorization" =
      some (if hasCredentials r.url.userinfo = true then basicCredentials r.url.userinfo
        else value) := by
  unfold authorized
  split
  · exact Headers.value?_set_self _ _ _
  · exact h

theorem value?_prepare {r : Request} {token : AccessToken}
    (h : r.headers.value? "authorization" = some ("OAuth " ++ token.text)) (c : Client) :
    (c.prepare r).headers.value? "authorization" = some (c.shown r.url token) := by
  unfold shown
  cases c with
  | bare =>
    simp only [ne_eq, reduceCtorEq, not_false_eq_true, true_and]
    exact value?_authorized h
  | agent name =>
    simp only [ne_eq, reduceCtorEq, not_false_eq_true, true_and]
    have hagent : (r.headers.setDefault "user-agent" name).value? "authorization" =
        some ("OAuth " ++ token.text) :=
      (Headers.value?_setDefault_of_ne r.headers name (by decide)).trans h
    exact value?_authorized (r := { r with headers := r.headers.setDefault "user-agent" name }) hagent
  | custom =>
    simp only [ne_eq, not_true_eq_false, false_and, if_false]
    exact h

end Client

theorem Request.DiffersInQuery.prepare {r r' : Request} (h : r.DiffersInQuery r') (c : Client) :
    (c.prepare r).DiffersInQuery (c.prepare r') := by
  unfold DiffersInQuery at h ⊢
  generalize r'.url.query = q at h
  subst h
  cases c with
  | custom => rfl
  | bare =>
    by_cases hcredentials : Client.hasCredentials r.url.userinfo = true <;>
      simp [Client.prepare, Client.authorized, hcredentials]
  | agent name =>
    by_cases hcredentials : Client.hasCredentials r.url.userinfo = true <;>
      simp [Client.prepare, Client.authorized, hcredentials]

end Bearer.Http
