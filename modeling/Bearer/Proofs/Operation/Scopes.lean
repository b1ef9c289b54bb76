import Bearer.Proofs.Operation.Plans
import Bearer.Proofs.Payload.Fields
import Bearer.Proofs.Secrecy.Outcomes
import Bearer.Proofs.Scope.Words

/-!
# Scopes on their way

Lists of scopes come in two forms, as one text and as an array, and that there are none is written
in two more ways. Whatever the form, a token holds the scopes of the list, in their order and as
often as they are listed; and when it is got anew, they are what the request asks for.

A text of scopes need not be tidy. Reading it and writing it again tidies the spaces, and what has
been read once is not changed by reading it again.

* `Spells`, `scopes_of_spells`: the forms of a list, and what they are read as.
* `Scope.Survives`: all that the scopes of a list come through.
* `scopes_survive`: every list of scopes, every text and every value.
-/
namespace Bearer

open Scope (IsWord joinTexts words pieces)
open World

variable {L : List String} {s : String} {v : Json}

/-! ## Texts of scopes -/

namespace Scope

/-- The text of a scope that can stand in a list: it is not empty and has no space. -/
def IsListed (t : String) : Prop :=
  IsWord t.toList

theorem isWord_of_isListed (h : ∀ t ∈ L, IsListed t) : ∀ w ∈ L.map String.toList, IsWord w :=
  List.forall_mem_map.2 h

theorem map_ofList_toList (L : List String) : (L.map String.toList).map String.ofList = L := by
  rw [List.map_map]
  exact (List.map_congr_left fun t _ => String.ofList_toList).trans (List.map_id L)

/-- The scopes of a list are the words of its text. -/
theorem words_joinTexts (h : ∀ t ∈ L, IsListed t) :
    (words (joinTexts L).toList).map String.ofList = L := by
  rw [joinTexts, String.toList_ofList, words_unwords (isWord_of_isListed h), map_ofList_toList]

theorem pieces_joinTexts (h : ∀ t ∈ L, IsListed t) (hne : L ≠ []) :
    (pieces (joinTexts L).toList).map String.ofList = L := by
  have hmap : L.map String.toList ≠ [] := by simpa using hne
  rw [joinTexts, String.toList_ofList, pieces_unwords (isWord_of_isListed h) hmap,
    map_ofList_toList]

theorem joinTexts_words (s : String) :
    joinTexts ((words s.toList).map String.ofList) = String.ofList (tidied s.toList) := by
  have hmap : ((words s.toList).map String.ofList).map String.toList = words s.toList := by
    rw [List.map_map]
    exact (List.map_congr_left fun w _ => String.toList_ofList).trans (List.map_id _)
  rw [joinTexts, hmap, unwords_words]

theorem texts_mk (L : List String) : (L.map Scope.mk).map Scope.text = L := by
  rw [List.map_map]
  exact List.map_id L

end Scope

namespace Payload

open Scope (IsListed)

/-! ## Forms of a list -/

/-- What texts of scopes are brought to: an array, or null if there are none. -/
def listed : List String → Json
  | [] => .null
  | ts => .arr (ts.map .str)

theorem normalizeScopes_str (s : String) :
    normalizeScopes (.str s) = .ok (listed ((words s.toList).map String.ofList)) := by
  rw [normalizeScopes, Scope.split?]
  cases words s.toList <;> rfl

theorem normalizeScopes_arr (h : L ≠ [""]) :
    normalizeScopes (.arr (L.map .str)) = .ok (.arr (L.map .str)) := by
  refine normalizeScopes_arr_of_ne fun hblank => h ?_
  obtain ⟨t, rfl, ht⟩ := List.map_eq_singleton_iff.1 hblank
  cases ht
  rfl

theorem ne_blank (h : ∀ t ∈ L, IsListed t) : L ≠ [""] := by
  rintro rfl
  exact (h "" (List.mem_singleton.2 rfl)).ne_nil rfl

/-- What is listed has been brought to its form. -/
theorem normalizeScopes_listed (h : ∀ t ∈ L, IsListed t) :
    normalizeScopes (listed L) = .ok (listed L) := by
  cases L with
  | nil => rfl
  | cons t ts => exact normalizeScopes_arr (ne_blank h)

theorem isListed_words (s : String) :
    ∀ t ∈ (words s.toList).map String.ofList, IsListed t :=
  List.forall_mem_map.2 fun w hw => by
    rw [IsListed, String.toList_ofList]
    exact Scope.isWord_of_mem_words hw

/-- Bringing a value to its form once is enough. -/
theorem normalizeScopes_idem (v : Json) :
    (normalizeScopes v).bind normalizeScopes = normalizeScopes v := by
  cases v with
  | str s =>
    rw [normalizeScopes_str]
    exact normalizeScopes_listed (isListed_words s)
  | arr items =>
    by_cases hblank : items = [.str ""]
    · subst hblank
      rfl
    · have hkept := normalizeScopes_arr_of_ne hblank
      exact (congrArg (Except.bind · normalizeScopes) hkept).trans rfl
  | obj fields => match fields with
    | [] | [_] | _ :: _ :: _ => rfl
  | _ => rfl

/-- The forms of a list: one text, an array, and the array of an empty text or an empty text if
there is nothing in it. -/
inductive Spells : List String → Json → Prop
  | text (L : List String) : Spells L (.str (joinTexts L))
  | array (L : List String) : Spells L (.arr (L.map .str))
  | emptyText : Spells [] (.str "")
  | emptyItem : Spells [] (.arr [.str ""])

theorem normalizeScopes_joinTexts (h : ∀ t ∈ L, IsListed t) :
    normalizeScopes (.str (joinTexts L)) = .ok (listed L) := by
  rw [normalizeScopes_str, Scope.words_joinTexts h]

/-- Whatever the form, it is brought to an array of the texts, or to null if there are none. -/
theorem normalizeScopes_of_spells (h : ∀ t ∈ L, IsListed t) (hv : Spells L v) :
    normalizeScopes v = .ok (.arr (L.map .str)) ∨ L = [] ∧ normalizeScopes v = .ok .null := by
  cases hv with
  | text =>
    rw [normalizeScopes_joinTexts h]
    cases L with
    | nil => exact .inr ⟨rfl, rfl⟩
    | cons t ts => exact .inl rfl
  | array => exact .inl (normalizeScopes_arr (ne_blank h))
  | emptyText => exact .inr ⟨rfl, rfl⟩
  | emptyItem => exact .inr ⟨rfl, rfl⟩

/-! ## Reading -/

theorem items_scope (src : Source) (L : List String) (start : Nat) :
    Reading.items (scope src) start (L.map .str) = .done (L.map Scope.mk) := by
  induction L generalizing start with
  | nil => rfl
  | cons t ts ih =>
    rw [List.map_cons, Reading.items, ih]
    rfl

/-- Every form of a list is read, and as the scopes of the list. -/
theorem scopes_of_spells (h : ∀ t ∈ L, IsListed t) (hv : Spells L v) (src : Source) :
    ∃ read, scopes src v = .done read ∧ read.getD [] = L.map Scope.mk := by
  rcases normalizeScopes_of_spells h hv with hform | ⟨rfl, hform⟩
  · refine ⟨some (L.map Scope.mk), ?_, rfl⟩
    rw [scopes, hform]
    exact congrArg (Reading.map some) (items_scope src L 0)
  · refine ⟨none, ?_, rfl⟩
    rw [scopes, hform]

theorem scopesField_of_spells (h : ∀ t ∈ L, IsListed t) (hv : Spells L v) {src : Source}
    {key : String} {fields : List (String × Json)} (hfield : Json.lookup? key fields = some v)
    {read : Option (List Scope)} (hread : scopesField src key fields = .done read) :
    read.getD [] = L.map Scope.mk := by
  obtain ⟨read', hscopes, heq⟩ := scopes_of_spells h hv src
  rw [scopesField, hfield] at hread
  have hdone := Reading.under_done_iff.1 hread
  rw [hscopes] at hdone
  cases hdone
  exact heq

theorem tokenAnswer_scopes {src : Source} {fields : List (String × Json)} {answer : TokenAnswer}
    (h : tokenAnswer src (.obj fields) = .done answer) :
    scopesField src (scopesKey fields) fields = .done answer.scopes := by
  simp only [tokenAnswer, fieldsOf, Reading.app_done_iff, Reading.map_done_iff] at h
  obtain ⟨_, _, ⟨_, _, ⟨_, _, ⟨_, _, ⟨_, -, rfl⟩, -, rfl⟩, -, rfl⟩, hscopes, rfl⟩, -, rfl⟩ := h
  exact hscopes

theorem validation_scopes {src : Source} {fields : List (String × Json)} {known : Validation}
    (h : validation src (.obj fields) = .done known) :
    scopesField src "scopes" fields = .done known.scopes := by
  simp only [validation, fieldsOf, Reading.app_done_iff, Reading.map_done_iff] at h
  obtain ⟨_, _, ⟨_, _, ⟨_, _, ⟨_, _, ⟨_, -, rfl⟩, -, rfl⟩, -, rfl⟩, hscopes, rfl⟩, -, rfl⟩ := h
  exact hscopes

end Payload

/-! ## Renewal -/

/-- A request for a token of the client's own, in whose query, read as a form, the scopes are those
of a list: the words of the only parameter for them, and all that stands between its spaces unless
there are none. -/
structure Http.Request.AsksFor (r : Http.Request) (L : List String) : Prop where
  query : ∃ q text, r.url.query = some q ∧
    Url.Form.valuesOf (Url.Form.decode q.toList) "grant_type" = ["client_credentials"] ∧
    Url.Form.valuesOf (Url.Form.decode q.toList) "scope" = [text] ∧
    (words text.toList).map String.ofList = L ∧
    (L ≠ [] → (pieces text.toList).map String.ofList = L)

section Renewal

variable {σ τ : Type} [Http.Server σ]

omit [Http.Server σ] in
theorem asksFor_of_asks {t : AppToken τ} (h : ∀ x ∈ L, Scope.IsListed x)
    (hscopes : t.scopes = L.map Scope.mk) (hnone : t.refreshToken = none)
    {settings : Answer.Loaded} {r : Http.Request} (hasks : (Token.app t).Asks settings r)
    (c : Http.Client) : (c.prepare r).AsksFor L := by
  have hrefresh : (Token.app t).refreshToken = none := hnone
  have htexts : (Token.app t).scopes.map (·.text) = L := by
    change t.scopes.map (·.text) = L
    rw [hscopes, Scope.texts_mk]
  unfold Token.Asks at hasks
  rw [hrefresh] at hasks
  obtain ⟨s, id, key, -, -, -, hpost⟩ := hasks
  rw [htexts] at hpost
  obtain ⟨u, hu, hv⟩ := bind_eq_ok (Http.Request.make_url hpost)
  obtain ⟨q, hq, -, harrive⟩ :=
    (Url.Extends.of_withParams (Url.parse_isRead hu) (by simp) (by simp) hv).query
  have hjoined : " ".intercalate L = joinTexts L := (Scope.joinTexts_eq L).symm
  refine ⟨q, " ".intercalate L, ?_, harrive.given ("grant_type", "client_credentials") (by simp),
    harrive.given ("scope", " ".intercalate L) (by simp), ?_, fun hne => ?_⟩
  · rw [(c.prepare_url r).1, hq]
  · rw [hjoined, Scope.words_joinTexts h]
  · rw [hjoined, Scope.pieces_joinTexts h hne]

/-- What an app token without a refresh token sends to be got anew. Where the settings load, that is
one request if it can be made and handed over, and nothing else. -/
theorem renewal_sends {t : AppToken τ} (h : ∀ x ∈ L, Scope.IsListed x)
    (hscopes : t.scopes = L.map Scope.mk) (hnone : t.refreshToken = none) (w : World σ τ) :
    ∃ rs, Exchanged rs w (Token.refresh (.app t, w)).2.2 ∧ (∀ r ∈ rs, r.AsksFor L) ∧
      ∀ s, w.settings = .ok s → Errand.Sends (τ := τ) s w.client
        (Errand.ofCredentials t.clientId t.clientSecret t.scopes) rs := by
  obtain ⟨rs, hex, hrs⟩ := (Token.refreshesWhole (.app t, w)).sends
  refine ⟨rs, hex, ?_, fun s hs => ?_⟩
  · rcases hrs with rfl | ⟨request, hasks, rfl⟩
    · exact nofun
    · exact List.forall_mem_singleton.2 (asksFor_of_asks h hscopes hnone hasks w.client)
  · obtain ⟨rs', hex', hsends⟩ := Token.refreshed_follows (.app t) w hs
    rw [← Token.refresh_world (.app t, w)] at hex'
    rw [hex.unique hex']
    simpa only [Plan.Sends, Errand.ofToken, hnone] using hsends

end Renewal

/-! ## Lists that survive -/

open Payload

/-- All that a list of scopes comes through as it is. -/
structure Scope.Survives (σ τ : Type) [Http.Server σ] (L : List String) : Prop where
  /-- Its text is brought to an array of its scopes, or to null if there are none. -/
  text : normalizeScopes (.str (joinTexts L)) = .ok (listed L)
  /-- An array of its scopes is left as it is. -/
  array : normalizeScopes (.arr (L.map .str)) = .ok (.arr (L.map .str))
  /-- Each of its forms is read as its scopes. -/
  read : ∀ v, Spells L v → ∀ src, ∃ read,
    scopes src v = .done read ∧ read.getD [] = L.map Scope.mk
  /-- A token that an answer brings in one of its forms holds its scopes. -/
  answered : ∀ v fields, Spells L v → Json.lookup? (scopesKey fields) fields = some v →
    ∀ src answer, tokenAnswer src (.obj fields) = .done answer → ∀ client secret (now : τ),
      (AppToken.ofAnswer answer client secret now).scopes = L.map Scope.mk
  /-- So does a token that a validation gives its scopes. -/
  validated : ∀ v fields, Spells L v → Json.lookup? "scopes" fields = some v →
    ∀ src known, validation src (.obj fields) = .done known → ∀ access refresh secret (now : τ),
      (AppToken.ofValidation known access refresh secret now).scopes = L.map Scope.mk ∧
        ∀ t, UserToken.ofValidation? known access refresh secret now = some t →
          t.scopes = L.map Scope.mk
  /-- A token that holds its scopes asks for them when it is got anew. -/
  renewed : ∀ (t : AppToken τ) (w : World σ τ), t.scopes = L.map Scope.mk → t.refreshToken = none →
    ∃ rs, Exchanged rs w (Token.refresh (.app t, w)).2.2 ∧ (∀ r ∈ rs, r.AsksFor L) ∧
      ∀ s, w.settings = .ok s → Errand.Sends (τ := τ) s w.client
        (Errand.ofCredentials t.clientId t.clientSecret t.scopes) rs

theorem Scope.survives {σ τ : Type} [Http.Server σ] (h : ∀ t ∈ L, Scope.IsListed t) :
    Scope.Survives σ τ L where
  text := normalizeScopes_joinTexts h
  array := normalizeScopes_arr (ne_blank h)
  read _ hv src := scopes_of_spells h hv src
  answered _ _ hv hfield _ _ hread _ _ _ :=
    scopesField_of_spells h hv hfield (tokenAnswer_scopes hread)
  validated v fields hv hfield src known hread access refresh secret now := by
    have hscopes := scopesField_of_spells h hv hfield (validation_scopes hread)
    refine ⟨hscopes, fun t ht => ?_⟩
    obtain ⟨-, -, -, -, -, -, -, -, ht, -⟩ := UserToken.ofValidation?_eq_some_iff.1 ht
    rw [ht, hscopes]
  renewed _ w hscopes hnone := renewal_sends h hscopes hnone w

/-- Every list of scopes that are not empty and have no spaces survives. Every text that is read and
written again is the text with one space for a run of them and none at the ends, and what was read
once reads as itself. -/
theorem scopes_survive (σ τ : Type) [Http.Server σ] :
    (∀ L : List String, (∀ t ∈ L, Scope.IsListed t) → Scope.Survives σ τ L) ∧
    (∀ s : String, ∃ ts, normalizeScopes (.str s) = .ok (listed ts) ∧
      joinTexts ts = String.ofList (Scope.tidied s.toList)) ∧
    (∀ v : Json, (normalizeScopes v).bind normalizeScopes = normalizeScopes v) :=
  ⟨fun _ => Scope.survives, fun s => ⟨_, normalizeScopes_str s, Scope.joinTexts_words s⟩,
    normalizeScopes_idem⟩

/-- A scope that is listed twice and one that nobody knows, as an answer gives them in one text: the
token holds them, and one request asks for them again. -/
theorem scopes_survive_again :
    let L := ["chat:read", "not:a:twitch:scope", "chat:read"]
    let fields := [("access_token", Json.str "old"), ("scope", .str (joinTexts L))]
    let w : World Http.Script Nat := { server := ⟨[]⟩, client := .bare, settings := .ok {}, now := 7 }
    (∃ answer, tokenAnswer .document (.obj fields) = .done answer ∧
      let t := AppToken.ofAnswer answer (some ⟨"cid"⟩) (some ⟨"key"⟩) w.now
      t.scopes = L.map Scope.mk ∧
        ∃ r, Exchanged [r] w (Token.refresh (.app t, w)).2.2 ∧ r.AsksFor L) ∧
    (∃ ts, normalizeScopes (.str "  chat:read   bits:read ") = .ok (listed ts) ∧
      joinTexts ts = "chat:read bits:read") ∧
    (normalizeScopes (.arr [.str ""])).bind normalizeScopes = .ok .null := by
  intro L fields w
  obtain ⟨hlists, htexts, hidem⟩ := scopes_survive Http.Script Nat
  have hL : ∀ t ∈ L, Scope.IsListed t := fun t ht =>
    ⟨by revert t; decide, by revert t; decide⟩
  let answer : TokenAnswer := ⟨⟨"old"⟩, none, none, some (L.map Scope.mk), none⟩
  let t : AppToken Nat := AppToken.ofAnswer answer (some ⟨"cid"⟩) (some ⟨"key"⟩) w.now
  have hread : tokenAnswer .document (.obj fields) = .done answer := by decide +kernel
  have hscopes : t.scopes = L.map Scope.mk :=
    (hlists L hL).answered _ fields (.text L) rfl _ _ hread _ _ _
  refine ⟨⟨answer, hread, hscopes, ?_⟩, ?_, hidem _⟩
  · obtain ⟨rs, hex, hasks, -⟩ := (hlists L hL).renewed t w hscopes rfl
    have hsent : (Token.refresh (.app t, w)).2.2.sent.toList.length = 1 := by decide +kernel
    rw [hex.sent] at hsent
    obtain ⟨r, rfl⟩ := List.length_eq_one_iff.1 hsent
    exact ⟨r, hex, hasks r (List.mem_singleton.2 rfl)⟩
  · obtain ⟨ts, hts, hjoin⟩ := htexts "  chat:read   bits:read "
    exact ⟨ts, hts, hjoin.trans (by decide +kernel)⟩

end Bearer
