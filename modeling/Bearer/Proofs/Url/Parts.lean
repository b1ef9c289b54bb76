import Bearer.Proofs.Url.Hosts

/-!
# URLs with parameters merged in

Parameters are merged into the query of a URL, and nothing else of it changes. In a URL that is read
no character in front of the query ends that front. So the query is what stands in the text behind
the first question mark, and it is found there by whoever gets the text.

* `parse_isRead`: the front of a URL that is read.
* `queryIn_text`: the query of a URL is the one in its text.
* `Extends`, `withParams_extends`: what merging parameters makes of a URL.
-/
namespace Bearer.Url

open Form

/-- No character of a text ends the front of a URL. -/
def InFront (s : String) : Prop :=
  ∀ c ∈ s.toList, endsFront c = false

theorem InFront.append {s t : String} (hs : InFront s) (ht : InFront t) : InFront (s ++ t) := by
  unfold InFront
  rw [String.toList_append]
  exact List.forall_mem_append.2 ⟨hs, ht⟩

theorem InFront.ite {s t : String} (hs : InFront s) (ht : InFront t) (p : Prop) [Decidable p] :
    InFront (if p then s else t) := by
  split
  · exact hs
  · exact ht

instance (s : String) : Decidable (InFront s) :=
  decidable_of_iff (s.toList.all fun c => !endsFront c) (by simp [InFront])

/-- The parts of a URL that come in front of the query, as reading leaves them. -/
structure IsRead (u : Url) : Prop where
  scheme : InFront u.scheme
  userinfo : InFront u.userinfo
  host : Host.IsRead u.host.toList
  path : InFront u.path

/-! ## Reading -/

theorem isSchemeChar_cutScheme (s : List Char) : ∀ c ∈ (cutScheme s).1, isSchemeChar c = true := by
  have htake : ∀ c ∈ s.takeWhile isSchemeChar, isSchemeChar c = true :=
    List.all_eq_true.1 List.all_takeWhile
  have hnone : ∀ c ∈ ([] : List Char), isSchemeChar c = true := fun c hc =>
    absurd hc List.not_mem_nil
  unfold cutScheme
  simp only
  split
  · split
    · exact hnone
    · rename_i hcons
      split
      · exact hnone
      · exact htake
  · exact hnone

theorem inFront_lower_scheme (s : List Char) :
    InFront (Text.lower (String.ofList (cutScheme s).1)) := by
  have hchars : ∀ c ∈ (cutScheme s).1, c.toNat < 128 ∧ endsFront c = false := fun c hc => by
    have hscheme := isSchemeChar_cutScheme s c hc
    simp only [isSchemeChar, Bool.or_eq_true, decide_eq_true_eq] at hscheme
    rcases hscheme with ((h | rfl) | rfl) | rfl
    · exact Host.isAscii_of_isNameChar (by simp [Host.isNameChar, isUnreserved, h])
    all_goals decide
  rw [InFront, Text.lower, String.toList_ofList, String.toList_ofList,
    Text.lowerChars_of_isAscii fun c hc => (hchars c hc).1]
  intro c hc
  obtain ⟨d, hd, rfl⟩ := List.mem_map.1 hc
  exact (isSmall_toLower (hchars d hd).1 (hchars d hd).2).inFront

theorem mem_of_mem_authority {s : List Char} {c : Char} (h : c ∈ (cutAuthority s).1) : c ∈ s := by
  unfold cutAuthority at h
  split at h
  · exact List.mem_cons_of_mem _ (List.mem_cons_of_mem _ ((List.takeWhile_prefix _).subset h))
  · exact absurd h List.not_mem_nil

theorem mem_of_mem_cutUserinfo {s : List Char} {c : Char} (h : c ∈ (cutUserinfo s).2) : c ∈ s := by
  unfold cutUserinfo at h
  split at h
  · have h := (List.takeWhile_prefix _).subset (List.mem_reverse.1 h)
    exact List.mem_reverse.1 h
  · exact h

theorem mem_of_mem_cutHost {s : List Char} {c : Char} (h : c ∈ (cutHost s).1) : c ∈ s := by
  have htake : ∀ {s : List Char}, c ∈ s.takeWhile (· != ':') → c ∈ s := fun h =>
    (List.takeWhile_prefix _).subset h
  unfold cutHost at h
  split at h
  · split at h
    · have h := (List.dropWhile_suffix _).subset (List.mem_reverse.1 h)
      exact List.mem_reverse.1 h
    · exact htake h
  · exact htake h

/-- What is escaped does not end the front if nothing that is safe does. -/
theorem inFront_escape {safe : Char → Bool} (hsafe : ∀ c, safe c = true → endsFront c = false)
    (s : List Char) : InFront (String.ofList (escape safe s)) := by
  intro c hc
  rw [String.toList_ofList] at hc
  obtain ⟨d, -, hd⟩ := List.mem_flatMap.1 hc
  rcases mem_escapeChar hd with h | rfl | h
  · exact hsafe c h
  · decide
  · exact (Host.isAscii_of_isNameChar (by simp [Host.isNameChar, h])).2

theorem inFront_of_isPathChar (c : Char) (h : isPathChar c = true) : endsFront c = false := by
  simp only [isPathChar, isPlainBut] at h
  by_contra hend
  simp only [endsFront, Bool.not_eq_false, Bool.or_eq_true, decide_eq_true_eq] at hend
  rcases hend with rfl | rfl <;> revert h <;> decide

theorem inFront_of_isUserinfoChar (c : Char) (h : isUserinfoChar c = true) : endsFront c = false :=
  inFront_of_isPathChar c (Bool.and_eq_true_iff.1 h).1

theorem readFront_isRead {front : List Char} (hfront : ∀ c ∈ front, endsFront c = false) {u : Url}
    (h : readFront front = .ok u) : u.IsRead := by
  unfold readFront at h
  simp only [bind, Except.bind] at h
  split at h
  · cases h
  rename_i host hhost
  split at h
  · cases h
  split at h
  · cases h
  cases h
  have hauthority : ∀ c ∈ (cutHost (cutUserinfo (cutAuthority (cutScheme front).2).1).2).1,
      endsFront c = false := fun c hc =>
    hfront c (mem_cutScheme (mem_of_mem_authority (mem_of_mem_cutUserinfo (mem_of_mem_cutHost hc))))
  refine ⟨inFront_lower_scheme front, inFront_escape inFront_of_isUserinfoChar _, ?_,
    inFront_escape inFront_of_isPathChar _⟩
  rw [String.toList_ofList]
  exact readHost_isRead hauthority hhost

/-- What is in front of the query of a URL that is read. -/
theorem parse_isRead {s : String} {u : Url} (h : parse s = .ok u) : u.IsRead := by
  rw [parse_eq] at h
  split at h
  · cases h
  split at h
  · cases h
  cases hfront : readFront (s.toList.takeWhile fun c => !endsFront c) with
  | error e =>
    rw [hfront] at h
    cases h
  | ok v =>
    rw [hfront] at h
    cases h
    have hread := readFront_isRead (fun c hc => by
      simpa using List.all_eq_true.1 List.all_takeWhile c hc) hfront
    exact ⟨hread.scheme, hread.userinfo, hread.host, hread.path⟩

/-! ## Finding the query -/

/-- The query that stands in a text: from the first question mark, if no number sign is in front of
it, to the next number sign. -/
def queryIn (s : String) : Option String :=
  match s.toList.dropWhile fun c => !endsFront c with
  | '?' :: q => some (String.ofList (q.takeWhile (· != '#')))
  | _ => none

theorem inFront_repr (n : Nat) : InFront n.repr := by
  intro c hc
  rw [Nat.toList_repr] at hc
  have hdigit := Nat.isDigit_of_mem_toDigits (by decide) (by decide) hc
  by_contra hend
  simp only [endsFront, Bool.not_eq_false, Bool.or_eq_true, decide_eq_true_eq] at hend
  rcases hend with rfl | rfl <;> revert hdigit <;> decide

theorem inFront_portText (u : Url) : InFront u.portText := by
  unfold portText
  cases u.port with
  | none => exact nofun
  | some n =>
    cases n with
    | ofNat n => exact .append (by decide) (inFront_repr n)
    | negSucc n => exact .append (by decide) (.append (s := "-") (by decide) (inFront_repr (n + 1)))

theorem inFront_authority {u : Url} (huserinfo : InFront u.userinfo) (hhost : InFront u.host) :
    InFront u.authority := by
  have hhostText : InFront u.hostText :=
    .ite (.append (.append (by decide) hhost) (by decide)) hhost _
  exact .append (.ite (by decide) (.append huserinfo (by decide)) _)
    (.append hhostText (inFront_portText u))

/-- The query that was set is the one that is found in the text. -/
theorem queryIn_text {u v : Url} (hu : u.IsRead) {q : String} (hq : '#' ∉ q.toList)
    (h : u.withQuery (some q) = .ok v) : queryIn v.text = some q := by
  have hv : v = { u.renormalized with query := some q } := by
    unfold withQuery at h
    split at h
    · exact (Except.ok.inj h).symm
    · cases h
  have hauthority : InFront u.renormalized.authority :=
    inFront_authority hu.userinfo (renormalized_inFront hu.host)
  have hfront : InFront ((if u.scheme.isEmpty then "" else u.scheme ++ ":") ++
      (if u.renormalized.authority.isEmpty then "" else "//" ++ u.renormalized.authority) ++
      u.path) :=
    .append (.append (.ite (by decide) (.append hu.scheme (by decide)) _)
      (.ite (by decide) (.append (by decide) hauthority) _)) hu.path
  have hpass : ∀ c ∈ q.toList, (c != '#') = true := fun c hc =>
    bne_iff_ne.2 fun he => hq (he ▸ hc)
  rw [hv]
  unfold queryIn
  rw [text_of_query, List.dropWhile_append_of_pos fun c hc => by simp [hfront c hc],
    List.dropWhile_cons_of_neg (by decide)]
  simp only [List.takeWhile_append_of_pos hpass]
  -- what stands behind the query starts with a number sign
  cases u.renormalized.fragment with
  | none => simp
  | some f => simp [String.toList_append]

/-! ## Merging into a URL -/

/-- The parameters in the query of a URL. -/
def ownParams (u : Url) : List Param :=
  match u.query with
  | some q => decode q.toList
  | none => []

theorem queryOf_eq (u : Url) : u.queryOf = .ofParams u.ownParams := by
  unfold queryOf ownParams
  cases u.query <;> rfl

/-- A URL is another one with parameters put into its query, where they are found in its text.
Letters of escapes in the name of a host may have become small ones, and the default port of the
scheme may have been dropped. -/
structure Extends (u : Url) (ps : List Param) (v : Url) : Prop where
  query : ∃ q, v.query = some q ∧ queryIn v.text = some q ∧ Arrive ps u.ownParams (decode q.toList)
  scheme : v.scheme = u.scheme
  userinfo : v.userinfo = u.userinfo
  host : v.host = u.host ∨ '%' ∈ u.host.toList ∧ v.host = Text.lower u.host
  port : v.port = keptPort u.scheme u.port
  path : v.path = u.path
  fragment : v.fragment = u.fragment

/-- With parameters a URL has a part that is too long. -/
def IsLongWith (u : Url) (ps : List Param) : Prop :=
  ∃ q : String, Arrive ps u.ownParams (decode q.toList) ∧ isShort { u with query := some q } = false

/-- Parameters are merged into a URL unless it gets too long. -/
theorem withParams_extends {u : Url} (hu : u.IsRead) {ps : List Param} (hne : ps ≠ [])
    (hps : (ps.map Prod.fst).Nodup) :
    (∃ v, u.withParams ps = .ok v ∧ u.Extends ps v ∧ v.host = u.renormalized.host) ∨
      u.withParams ps = .error .tooLong ∧ u.IsLongWith ps := by
  have hmerged : ∀ q, q = String.ofList (encode (u.queryOf.merge (.ofParams ps)).params) →
      Arrive ps u.ownParams (decode q.toList) := fun q hq => by
    rw [hq, String.toList_ofList, decode_encode, queryOf_eq]
    exact Query.arrive_merge hps u.ownParams
  have hplain : ∀ q, q = String.ofList (encode (u.queryOf.merge (.ofParams ps)).params) →
      '#' ∉ q.toList := fun q hq hmem => by
    rw [hq, String.toList_ofList] at hmem
    exact (isPlain_encode _ _ hmem).1 rfl
  unfold withParams
  rw [if_neg (by simpa using hne)]
  simp only
  generalize String.ofList (encode (u.queryOf.merge (.ofParams ps)).params) = q at *
  by_cases hshort : isShort { u with query := some q } = true
  · have hv : u.withQuery (some q) = .ok { u.renormalized with query := some q } := if_pos hshort
    refine .inl ⟨_, hv, ⟨⟨q, rfl, queryIn_text hu (hplain q rfl) hv, hmerged q rfl⟩, rfl, rfl,
      renormalized_host hu.host, rfl, rfl, rfl⟩, rfl⟩
  · refine .inr ⟨if_neg hshort, q, hmerged q rfl, ?_⟩
    simpa using hshort

theorem Extends.of_withParams {u v : Url} (hu : u.IsRead) {ps : List Param} (hne : ps ≠ [])
    (hps : (ps.map Prod.fst).Nodup) (h : u.withParams ps = .ok v) : u.Extends ps v := by
  rcases withParams_extends hu hne hps with ⟨v', hv', hextends, -⟩ | ⟨hlong, -⟩
  · rw [h] at hv'
    cases hv'
    exact hextends
  · rw [h] at hlong
    cases hlong

end Bearer.Url
