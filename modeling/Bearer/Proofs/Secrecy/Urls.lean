import Bearer.Proofs.Secrecy.Outcomes
import Bearer.Proofs.Secrecy.Queries
import Bearer.Url.Reference
import Mathlib.Data.List.Basic
import Mathlib.Data.List.TakeWhile

/-!
# URLs that differ in their queries

All that stands in front of the first question mark or number sign of a text makes the front of the
URL that it is read as: scheme, user information, host, port and path. So texts that differ in a
plain query are read alike: as URLs with the same front, or with the same fault. They may differ in
one point, their length, so that one of them is too long.

* `parse_eq`: reading, with the front apart from the query and the fragment.
* `parse_alike`: texts that differ in a plain query.
* `withParams_alike`: different parameters merged into one URL.
* `resolve_alike`: a place in the light of URLs that differ in their queries.
-/
namespace Bearer

/-- A text, or a part of it, is too long for a URL. -/
def InvalidUrl.IsTooLong (e : InvalidUrl) : Prop :=
  e = .tooLong

theorem InvalidUrl.isTooLong : InvalidUrl.tooLong.IsTooLong := rfl

namespace Url

/-! ## Reading the front -/

/-- Whether a character ends the front of a URL. -/
def endsFront (c : Char) : Bool :=
  c = '?' || c = '#'

/-- Nothing, or what a query or a fragment starts with. -/
def IsTail (s : List Char) : Prop :=
  ∀ c ∈ s.head?, endsFront c = true

/-- Reads the front of a URL. -/
def readFront (front : List Char) : Except InvalidUrl Url := do
  let (scheme, rest) := cutScheme front
  let (authority, path) := cutAuthority rest
  let (userinfo, rest) := cutUserinfo authority
  let (host, rest) := cutHost rest
  let host ← readHost host
  let port ← readPort (String.ofList scheme) (match rest with
    | ':' :: p => p
    | p => p)
  let hasScheme := !scheme.isEmpty
  let hasAuthority := !userinfo.isEmpty || !host.isEmpty || port.isSome
  checkPath hasScheme hasAuthority path
  let path := if hasScheme || hasAuthority then resolvePath path else path
  return {
    scheme := Text.lower (String.ofList scheme)
    userinfo := String.ofList (escape isUserinfoChar userinfo)
    host := String.ofList host
    port := port
    path := String.ofList (escape isPathChar path)
    query := none
    fragment := none
  }

/-- The query and the fragment that a tail holds. -/
def withTail (u : Url) (tail : List Char) : Url :=
  { u with
    query := (match tail with
      | '?' :: q => some (q.takeWhile (· != '#'))
      | _ => none).map fun q => String.ofList (escape isQueryChar q)
    fragment := (match tail.dropWhile (· != '#') with
      | _ :: f => some f
      | [] => none).map fun f => String.ofList (escape isFragmentChar f) }

theorem isTail_dropWhile (s : List Char) : IsTail (s.dropWhile fun c => !endsFront c) := by
  intro c hc
  have h := List.head?_dropWhile_not (fun c => !endsFront c) s
  rw [Option.mem_def.1 hc] at h
  simpa using h

variable {front tail : List Char}

theorem takeWhile_append_tail (front : List Char) {p : Char → Bool} (hp : ∀ c ∈ tail.head?, p c = false) :
    (front ++ tail).takeWhile p = front.takeWhile p ∧
      (front ++ tail).dropWhile p = front.dropWhile p ++ tail := by
  induction front with
  | nil => cases tail <;> simp_all
  | cons c front ih =>
    by_cases h : p c = true
    · simp [h, ih]
    · simp [h]

theorem cutScheme_append (h : IsTail tail) :
    cutScheme (front ++ tail) = ((cutScheme front).1, (cutScheme front).2 ++ tail) := by
  have hp : ∀ c ∈ tail.head?, isSchemeChar c = false := fun c hc => by
    have hend := h c hc
    simp only [endsFront, Bool.or_eq_true, decide_eq_true_eq] at hend
    rcases hend with rfl | rfl <;> decide
  obtain ⟨htake, hdrop⟩ := takeWhile_append_tail front hp
  unfold cutScheme
  simp only [htake, hdrop]
  cases hrest : front.dropWhile isSchemeChar with
  | nil =>
    cases tail with
    | nil => simp
    | cons c t =>
      have hend := h c rfl
      have hcolon : c ≠ ':' := by
        rintro rfl
        exact absurd hend (by decide)
      simp [hcolon]
  | cons c rest =>
    by_cases hc : c = ':'
    · subst hc
      simp only [List.cons_append]
      split
      · rfl
      · split <;> rfl
    · simp [hc]

theorem cutAuthority_of_ne {s : List Char} (h : ∀ t, s ≠ '/' :: '/' :: t) :
    cutAuthority s = ([], s) := by
  unfold cutAuthority
  split
  · exact absurd rfl (h _)
  · rfl

theorem cutAuthority_append (h : IsTail tail) :
    cutAuthority (front ++ tail) = ((cutAuthority front).1, (cutAuthority front).2 ++ tail) := by
  have hp : ∀ c ∈ tail.head?, (!(c = '/' || c = '?' || c = '#' : Bool)) = false := fun c hc => by
    have hend := h c hc
    simp only [endsFront, Bool.or_eq_true, decide_eq_true_eq] at hend
    rcases hend with rfl | rfl <;> rfl
  -- neither slash comes from the tail
  have hslash : ∀ t, tail ≠ '/' :: t := by
    rintro t rfl
    exact absurd (h '/' rfl) (by decide)
  by_cases hfront : ∃ t, front = '/' :: '/' :: t
  · obtain ⟨t, rfl⟩ := hfront
    obtain ⟨htake, hdrop⟩ := takeWhile_append_tail t hp
    exact Prod.ext htake hdrop
  · have hne : ∀ t, front ≠ '/' :: '/' :: t := fun t ht => hfront ⟨t, ht⟩
    have hne' : ∀ t, front ++ tail ≠ '/' :: '/' :: t := fun t ht => by
      match front with
      | [] => exact hslash _ ht
      | [c] => exact hslash _ (List.cons.inj ht).2
      | c :: d :: front =>
        obtain ⟨hc, ht⟩ := List.cons.inj ht
        obtain ⟨hd, -⟩ := List.cons.inj ht
        exact hne front (by rw [hc, hd])
    rw [cutAuthority_of_ne hne, cutAuthority_of_ne hne']

theorem mem_cutScheme {s : List Char} {c : Char} (h : c ∈ (cutScheme s).2) : c ∈ s := by
  have hdrop : ∀ {d rest}, s.dropWhile isSchemeChar = d :: rest → c ∈ rest → c ∈ s :=
    fun heq hc => (List.dropWhile_suffix isSchemeChar).subset (heq ▸ List.mem_cons_of_mem _ hc)
  unfold cutScheme at h
  simp only at h
  split at h
  · rename_i rest heq
    split at h
    · exact hdrop heq h
    · split at h
      · exact h
      · exact hdrop heq h
  · exact h

theorem mem_cutAuthority {s : List Char} {c : Char} (h : c ∈ (cutAuthority s).2) : c ∈ s := by
  unfold cutAuthority at h
  split at h
  · exact List.mem_cons_of_mem _ (List.mem_cons_of_mem _ ((List.dropWhile_suffix _).subset h))
  · exact h

/-- Reading puts what the front reads as together with the query and the fragment of the rest. -/
theorem parse_eq (s : String) :
    parse s =
      if maxLength < s.toList.length then .error .tooLong
      else match s.toList.find? isControl with
        | some c => .error (.control c (s.toList.idxOf c))
        | none =>
          (readFront (s.toList.takeWhile fun c => !endsFront c)).map fun u =>
            u.withTail (s.toList.dropWhile fun c => !endsFront c) := by
  have hsplit := (List.takeWhile_append_dropWhile : (s.toList.takeWhile fun c => !endsFront c) ++
    (s.toList.dropWhile fun c => !endsFront c) = s.toList)
  have htail := isTail_dropWhile s.toList
  have hfront : ∀ c ∈ s.toList.takeWhile fun c => !endsFront c, (c != '?' && c != '#') = true := by
    intro c hc
    have := List.all_eq_true.1 List.all_takeWhile c hc
    simpa [endsFront] using this
  generalize s.toList.takeWhile (fun c => !endsFront c) = front at *
  generalize s.toList.dropWhile (fun c => !endsFront c) = tail at *
  have hstop : ∀ c ∈ tail.head?, (c != '?' && c != '#') = false := fun c hc => by
    have hend := htail c hc
    simp only [endsFront, Bool.or_eq_true, decide_eq_true_eq] at hend
    rcases hend with rfl | rfl <;> rfl
  have hpath : ∀ c ∈ (cutAuthority (cutScheme front).2).2, (c != '?' && c != '#') = true :=
    fun c hc => hfront c (mem_cutScheme (mem_cutAuthority hc))
  obtain ⟨htake, hdrop⟩ :=
    takeWhile_append_tail (cutAuthority (cutScheme front).2).2 hstop
  rw [List.takeWhile_eq_self_iff.2 hpath] at htake
  rw [List.dropWhile_eq_nil_iff.2 hpath, List.nil_append] at hdrop
  unfold parse
  simp only [← hsplit, cutScheme_append htail, cutAuthority_append htail, htake, hdrop]
  split
  · rfl
  · cases List.find? isControl (front ++ tail) with
    | some c => rfl
    | none =>
      unfold readFront
      simp only [map_bind]
      rfl

/-! ## Texts that differ in a query -/

/-- Two URLs with the same front, both with something in their fragment or both with nothing. -/
structure SameFront (u v : Url) : Prop where
  scheme : u.scheme = v.scheme
  userinfo : u.userinfo = v.userinfo
  host : u.host = v.host
  port : u.port = v.port
  path : u.path = v.path
  fragment : (u.fragment.getD "").isEmpty = (v.fragment.getD "").isEmpty

theorem SameFront.refl (u : Url) : SameFront u u := ⟨rfl, rfl, rfl, rfl, rfl, rfl⟩

theorem isEmpty_ofList (s : List Char) : (String.ofList s).isEmpty = s.isEmpty := by
  cases s <;> simp [String.isEmpty_iff]

/-- What is behind the number sign decides whether there is something in the fragment. -/
theorem withTail_fragment (u : Url) (tail : List Char) :
    ((u.withTail tail).fragment.getD "").isEmpty =
      ((tail.dropWhile (· != '#')).drop 1).isEmpty := by
  unfold withTail
  cases h : tail.dropWhile (· != '#') with
  | nil => simp
  | cons c f =>
    have hescape : (escape isFragmentChar f).isEmpty = f.isEmpty := by
      rw [Bool.eq_iff_iff, List.isEmpty_iff, List.isEmpty_iff, escape_eq_nil_iff]
    simpa [isEmpty_ofList] using hescape

theorem dropWhile_front (s : List Char) :
    (s.dropWhile fun c => !endsFront c).dropWhile (· != '#') = s.dropWhile (· != '#') := by
  induction s with
  | nil => rfl
  | cons c s ih =>
    by_cases hc : endsFront c = true
    · simp [hc]
    · have hne : c ≠ '#' := by
        rintro rfl
        exact hc rfl
      simp [hc, hne, ih]

variable {front q q' rest : List Char}

/-- The fragment of a text with a plain query does not depend on the query. -/
theorem fragment_of_plain (hq : IsPlain q) (hq' : IsPlain q') :
    (((front ++ '?' :: (q ++ rest)).dropWhile (· != '#')).drop 1).isEmpty =
      (((front ++ '?' :: (q' ++ rest)).dropWhile (· != '#')).drop 1).isEmpty := by
  have hplain : ∀ {q}, IsPlain q →
      (q ++ rest).dropWhile (· != '#') = rest.dropWhile (· != '#') := fun {q} hq => by
    rw [List.dropWhile_append_of_pos fun c hc => ?_]
    simpa using (hq c hc).1
  induction front with
  | nil => simp [hplain hq, hplain hq']
  | cons c front ih =>
    by_cases hc : c = '#'
    · subst hc
      cases front <;> simp
    · simpa [hc] using ih

theorem find?_of_plain (hq : IsPlain q) (hrest : ∀ c ∈ rest, isControl c = false) :
    (front ++ '?' :: (q ++ rest)).find? isControl = front.find? isControl := by
  have hnone : ('?' :: (q ++ rest)).find? isControl = none := by
    rw [List.find?_eq_none]
    intro c hc
    rcases List.mem_cons.1 hc with rfl | hc
    · decide
    · rcases List.mem_append.1 hc with hc | hc
      · simp [(hq c hc).2.2.2]
      · simp [hrest c hc]
  rw [List.find?_append, hnone, Option.or_none]

theorem takeWhile_front (q : List Char) :
    (front ++ '?' :: q).takeWhile (fun c => !endsFront c) = front.takeWhile fun c => !endsFront c :=
  (takeWhile_append_tail front (by simp [endsFront])).1

/-- Texts that differ in a plain query are read alike, unless one of them is too long. -/
theorem parse_alike {s s' : String} (hs : s.toList = front ++ '?' :: (q ++ rest))
    (hs' : s'.toList = front ++ '?' :: (q' ++ rest)) (hq : IsPlain q) (hq' : IsPlain q')
    (hrest : ∀ c ∈ rest, isControl c = false) :
    Alike InvalidUrl.IsTooLong SameFront (parse s) (parse s') := by
  by_cases hlong : maxLength < s.toList.length
  · rw [parse_eq, if_pos hlong]
    exact .left InvalidUrl.isTooLong _
  by_cases hlong' : maxLength < s'.toList.length
  · rw [parse_eq s', if_pos hlong']
    exact .right InvalidUrl.isTooLong _
  rw [parse_eq, parse_eq, if_neg hlong, if_neg hlong', hs, hs', find?_of_plain hq hrest,
    find?_of_plain hq' hrest, takeWhile_front, takeWhile_front]
  cases hfind : front.find? isControl with
  | some c =>
    -- the first control is in front of the query, so it has the same place
    have hmem := List.mem_of_find?_eq_some hfind
    simp only [List.idxOf_append_of_mem hmem]
    exact .error _
  | none =>
    refine (Alike.of_eq rfl).map fun u v huv => ?_
    subst huv
    refine ⟨rfl, rfl, rfl, rfl, rfl, ?_⟩
    rw [withTail_fragment, withTail_fragment, dropWhile_front, dropWhile_front]
    exact fragment_of_plain hq hq'

/-! ## Fragments -/

/-- The fragment of a URL holds no control. -/
def HasCleanFragment (u : Url) : Prop :=
  ∀ f, u.fragment = some f → ∀ c ∈ f.toList, isControl c = false

theorem isControl_of_isFragmentChar {c : Char} (h : isFragmentChar c = true) :
    isControl c = false := by
  simp only [isFragmentChar, isPlainBut, Bool.and_eq_true, decide_eq_true_eq] at h
  simp only [isControl, Bool.or_eq_false_iff, decide_eq_false_iff_not, beq_eq_false_iff_ne]
  omega

/-- A fragment that is read is clean, since what is not is escaped. -/
theorem parse_fragment {s : String} {u : Url} (h : parse s = .ok u) : u.HasCleanFragment := by
  rw [parse_eq] at h
  split at h
  · cases h
  · split at h
    · cases h
    · cases hfront : readFront (s.toList.takeWhile fun c => !endsFront c) with
      | error e =>
        rw [hfront] at h
        cases h
      | ok v =>
        rw [hfront] at h
        cases h
        intro f hf c hc
        obtain ⟨t, -, rfl⟩ := Option.map_eq_some_iff.1 hf
        rw [String.toList_ofList] at hc
        obtain ⟨d, -, hd⟩ := List.mem_flatMap.1 hc
        rcases mem_escapeChar hd with h | rfl | h
        · exact isControl_of_isFragmentChar h
        · decide
        · exact isControl_of_isUnreserved h

/-! ## URLs that differ in a query -/

/-- Two URLs that are the same or differ in their queries alone, both of which are there and
plain. -/
inductive SameButQuery (u : Url) : Url → Prop
  | same : SameButQuery u u
  | query {q q' : String} (hu : u.query = some q) (hq : IsPlain q.toList) (hq' : IsPlain q'.toList)
      (hne : q ≠ "") (hne' : q' ≠ "") (hfragment : u.HasCleanFragment) :
      SameButQuery u { u with query := some q' }

/-- Parameters with other values make a URL that differs in its query, unless one of the two is too
long. -/
theorem withParams_alike {u : Url} (hu : u.HasCleanFragment) {ps ps' : List Form.Param}
    (h : ps.isEmpty = ps'.isEmpty) :
    Alike InvalidUrl.IsTooLong SameButQuery (u.withParams ps) (u.withParams ps') := by
  cases ps with
  | nil =>
    rw [List.isEmpty_iff.1 (h.symm.trans List.isEmpty_nil)]
    exact .ok .same
  | cons p ps =>
    cases ps' with
    | nil => cases h
    | cons p' ps' =>
      simp only [withParams, List.isEmpty_cons, Bool.false_eq_true, if_false]
      generalize hq : Form.encode ((u.queryOf.merge (.ofParams (p :: ps))).params) = q
      generalize hq' : Form.encode ((u.queryOf.merge (.ofParams (p' :: ps'))).params) = q'
      have hplain : IsPlain q ∧ q ≠ [] :=
        hq ▸ ⟨isPlain_encode _, encode_ne_nil (Query.params_merge_ne_nil _ (List.cons_ne_nil _ _))⟩
      have hplain' : IsPlain q' ∧ q' ≠ [] :=
        hq' ▸ ⟨isPlain_encode _, encode_ne_nil (Query.params_merge_ne_nil _ (List.cons_ne_nil _ _))⟩
      unfold withQuery
      split
      · split
        · exact .ok (.query rfl (by simpa using hplain.1) (by simpa using hplain'.1)
            (by simpa using hplain.2) (by simpa using hplain'.2) hu)
        · exact .right InvalidUrl.isTooLong _
      · exact .left InvalidUrl.isTooLong _

theorem SameButQuery.withQuery_none {u v : Url} (h : SameButQuery u v) :
    u.withQuery none = v.withQuery none := by
  cases h <;> rfl

/-- The text of a URL with a query, cut in front of it and behind it. -/
theorem text_of_query (u : Url) (q : String) :
    ({ u with query := some q } : Url).text.toList =
      ((if u.scheme.isEmpty then "" else u.scheme ++ ":") ++
        (if u.authority.isEmpty then "" else "//" ++ u.authority) ++ u.path).toList ++
      '?' :: (q.toList ++ (match u.fragment with
        | some f => "#" ++ f
        | none => "").toList) := by
  have hmark : "?".toList = ['?'] := rfl
  have hauthority : ∀ f, ({ u with query := some q, fragment := f } : Url).authority = u.authority :=
    fun _ => rfl
  cases hf : u.fragment <;>
    simp only [text, hauthority, String.toList_append, hmark, List.append_assoc, List.cons_append,
      List.nil_append]

theorem assembled_of_query (scheme authority path fragment : String) {q : String} (hq : q ≠ "") :
    (assembled scheme authority path q fragment).toList =
      ((if scheme.isEmpty then "" else scheme ++ ":") ++ "//" ++ authority ++
        (if path.isEmpty || path.toList.head? = some '/' then path else "/" ++ path)).toList ++
      '?' :: (q.toList ++ (if fragment.isEmpty then "" else "#" ++ fragment).toList) := by
  have hmark : "?".toList = ['?'] := rfl
  have hne : q.isEmpty = false := by simpa using hq
  simp only [assembled, hne, String.toList_append, hmark, List.append_assoc, List.cons_append,
    List.nil_append, Bool.false_eq_true, if_false]

/-- What stands behind the query of a text holds no control if the fragment does not. -/
theorem isControl_of_mark {s : String} (h : ∀ c ∈ s.toList, isControl c = false) :
    ∀ c ∈ ("#" ++ s).toList, isControl c = false := by
  have hmark : "#".toList = ['#'] := rfl
  rw [String.toList_append, hmark, List.singleton_append]
  exact List.forall_mem_cons.2 ⟨by decide, h⟩

theorem resolve_eq (base u : Url) :
    base.resolve u =
      match u.asRead with
      | .error e => .error e
      | .ok v => parse (referenceText base u.text v) := by
  unfold resolve
  cases u.asRead <;> simp only [bind, Except.bind]

/-- A place is read alike in the light of URLs that differ in their queries. -/
theorem resolve_alike {base base' : Url} (h : SameButQuery base base') {u : Url}
    (hu : u.HasCleanFragment) :
    Alike InvalidUrl.IsTooLong SameFront (base.resolve u) (base'.resolve u) := by
  cases h with
  | same => exact .refl SameFront.refl _
  | @query q q' hbase hq hq' hne hne' hfragment =>
    have hself : base = { base with query := some q } := by rw [← hbase]
    rw [resolve_eq, resolve_eq]
    cases hv : u.asRead with
    | error e => exact .error e
    | ok v =>
      have hclean : v.HasCleanFragment := by
        unfold asRead at hv
        split at hv
        · exact parse_fragment hv
        · cases hv
          exact hu
      have hassembled : ∀ scheme authority path,
          Alike InvalidUrl.IsTooLong SameFront
            (parse (assembled scheme authority path q (v.fragment.getD "")))
            (parse (assembled scheme authority path q' (v.fragment.getD ""))) := by
        intro scheme authority path
        refine parse_alike (assembled_of_query _ _ _ _ hne) (assembled_of_query _ _ _ _ hne') hq hq'
          ?_
        split
        · exact nofun
        · refine isControl_of_mark ?_
          cases hf : v.fragment with
          | none => exact nofun
          | some f => exact hclean f hf
      have htext : Alike InvalidUrl.IsTooLong SameFront
          (parse base.text) (parse ({ base with query := some q' } : Url).text) := by
        rw [hself]
        refine parse_alike (text_of_query _ _) (text_of_query _ _) hq hq' ?_
        cases hf : base.fragment with
        | none => exact nofun
        | some f => exact isControl_of_mark (hfragment f hf)
      simp only
      unfold referenceText
      -- which case it is does not depend on the query
      simp only [show ({ base with query := some q' } : Url).authority = base.authority from rfl,
        hbase, Option.getD_some]
      split
      · exact htext
      split
      · exact .refl SameFront.refl _
      split
      · exact .refl SameFront.refl _
      split
      · split
        · exact hassembled _ _ _
        · exact .refl SameFront.refl _
      · exact .refl SameFront.refl _

end Url

end Bearer
