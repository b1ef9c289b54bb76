import Bearer.Proofs.Text.Trimmed
import Bearer.Proofs.Url.Parts

/-!
# URLs that are pasted

A URL with parameters for its whole query is made by writing a question mark and the parameters
behind a text that reads as a URL and has no query of its own. Whoever gets it, with blanks round it
perhaps, reads the URL in front and the parameters as they were: nothing in them needs an escape
that is not there, and nothing in them is blank.

* `parse_withParams`: a URL behind which parameters are written.
* `trimmed_pasted`: blanks round such a URL.
-/
namespace Bearer

namespace Url

/-! ## Characters of forms -/

namespace Form

variable {p : Char → Prop}

/-- What holds of the safe characters and of the marks of forms holds of all that is written. -/
theorem forall_mem_component (hsafe : ∀ c, isUnreserved c = true → p c) (hplus : p '+')
    (hpercent : p '%') (s : List Char) : ∀ c ∈ component s, p c := by
  intro c hc
  obtain ⟨d, -, hd⟩ := List.mem_flatMap.1 hc
  unfold componentChar at hd
  split at hd
  · rw [List.mem_singleton.1 hd]
    exact hplus
  · rcases mem_escapeChar hd with h | rfl | h
    · exact hsafe c h
    · exact hpercent
    · exact hsafe c h

theorem forall_mem_encode (hsafe : ∀ c, isUnreserved c = true → p c) (hplus : p '+')
    (hpercent : p '%') (hequals : p '=') (hand : p '&') (ps : List Param) :
    ∀ c ∈ encode ps, p c := by
  have hfield : ∀ q : Param, ∀ c ∈ field q, p c := fun q => List.forall_mem_append.2
    ⟨forall_mem_component hsafe hplus hpercent _,
      List.forall_mem_cons.2 ⟨hequals, forall_mem_component hsafe hplus hpercent _⟩⟩
  have hseparated : ∀ qs : List Param, ∀ c ∈ separated '&' (qs.map field), p c := fun qs => by
    induction qs with
    | nil => exact nofun
    | cons q qs ih =>
      cases qs with
      | nil => exact hfield q
      | cons q' qs =>
        exact List.forall_mem_append.2 ⟨hfield q, List.forall_mem_cons.2 ⟨hand, ih⟩⟩
  exact hseparated ps

/-- Safe characters may stand in a query, and none is blank. -/
theorem isQueryChar_of_isUnreserved {c : Char} (h : isUnreserved c = true) :
    isQueryChar c = true ∧ Text.isBlank c = false := by
  have hascii : c.toNat < 128 :=
    (Host.isAscii_of_isNameChar (by simp [Host.isNameChar, h])).1
  exact forall_ascii (p := fun c => isUnreserved c = true → isQueryChar c = true ∧
    Text.isBlank c = false) (by decide) hascii h

theorem isQueryChar_of_mem_encode (ps : List Param) :
    ∀ c ∈ encode ps, isQueryChar c = true ∧ Text.isBlank c = false :=
  forall_mem_encode (fun _ => isQueryChar_of_isUnreserved) (by decide) (by decide) (by decide)
    (by decide) ps

end Form

open Form

theorem escape_eq_self {safe : Char → Bool} {s : List Char} (h : ∀ c ∈ s, safe c = true) :
    escape safe s = s := by
  induction s with
  | nil => rfl
  | cons c s ih =>
    obtain ⟨hc, hs⟩ := List.forall_mem_cons.1 h
    have hcons : escape safe (c :: s) = escapeChar safe c ++ escape safe s := rfl
    rw [hcons, escapeChar, if_pos hc, ih hs]
    rfl

/-! ## A URL with parameters behind it -/

/-- A text with parameters for a query. -/
def textWith (base : String) (ps : List Param) : String :=
  base ++ "?" ++ String.ofList (encode ps)

variable {base : String} {u : Url}

theorem toList_textWith (base : String) (ps : List Param) :
    (textWith base ps).toList = base.toList ++ '?' :: encode ps := by
  simp [textWith]

theorem takeWhile_inFront (hfront : InFront base) (tail : List Char)
    (htail : ∀ c ∈ tail.head?, endsFront c = true) :
    (base.toList ++ tail).takeWhile (fun c => !endsFront c) = base.toList ∧
      (base.toList ++ tail).dropWhile (fun c => !endsFront c) = tail := by
  have hall : ∀ c ∈ base.toList, (!endsFront c) = true := fun c hc => by simp [hfront c hc]
  rw [List.takeWhile_append_of_pos hall, List.dropWhile_append_of_pos hall]
  cases tail with
  | nil => simp
  | cons c tail => simp [htail c rfl]

/-- A text without a query and a fragment is read as a front. -/
theorem exists_readFront (h : parse base = .ok u) (hfront : InFront base) :
    base.toList.find? isControl = none ∧ ∃ v, readFront base.toList = .ok v ∧ u = v.withTail [] := by
  obtain ⟨htake, hdrop⟩ := takeWhile_inFront hfront [] nofun
  rw [List.append_nil] at htake hdrop
  rw [parse_eq, htake, hdrop] at h
  split at h
  · cases h
  split at h
  · cases h
  rename_i hcontrol
  refine ⟨hcontrol, ?_⟩
  cases hread : readFront base.toList with
  | error e =>
    rw [hread] at h
    cases h
  | ok v =>
    rw [hread] at h
    exact ⟨v, rfl, (Except.ok.inj h).symm⟩

/-- Parameters behind a text that reads as a URL are its query, unless the whole is too long. -/
theorem parse_withParams (h : parse base = .ok u) (hfront : InFront base) (ps : List Param)
    (hshort : (textWith base ps).toList.length ≤ maxLength) :
    parse (textWith base ps) = .ok { u with query := some (String.ofList (encode ps)) } := by
  obtain ⟨hcontrol, v, hread, rfl⟩ := exists_readFront h hfront
  obtain ⟨htake, hdrop⟩ := takeWhile_inFront hfront ('?' :: encode ps) (by simp [endsFront])
  have hquery : (base.toList ++ '?' :: (encode ps ++ [])).find? isControl =
      base.toList.find? isControl := find?_of_plain (isPlain_encode ps) (by simp)
  rw [List.append_nil, hcontrol] at hquery
  rw [parse_eq, if_neg (by omega), toList_textWith, hquery, htake, hdrop, hread]
  have hplain : ∀ c ∈ encode ps, (c != '#') = true := fun c hc => by
    simpa using (isPlain_encode ps c hc).1
  have hkept := List.takeWhile_eq_self_iff.2 hplain
  have hnone := List.dropWhile_eq_nil_iff.2 hplain
  have hescape : escape isQueryChar (encode ps) = encode ps :=
    escape_eq_self fun c hc => (isQueryChar_of_mem_encode ps c hc).1
  refine congrArg Except.ok ?_
  simp [withTail, hkept, hnone, hescape]

theorem ownParams_withQuery (u : Url) (ps : List Param) :
    { u with query := some (String.ofList (encode ps)) }.ownParams = ps := by
  change decode (String.ofList (encode ps)).toList = ps
  rw [String.toList_ofList, decode_encode]

/-! ## Blanks round a URL -/

theorem readFront_scheme {front : List Char} (h : readFront front = .ok u) :
    u.scheme = Text.lower (String.ofList (cutScheme front).1) := by
  unfold readFront at h
  simp only [bind, Except.bind] at h
  split at h
  · cases h
  split at h
  · cases h
  split at h
  · cases h
  cases h
  rfl

theorem cutScheme_head? {s : List Char} (h : (cutScheme s).1 ≠ []) :
    ∃ c ∈ s.head?, isAlphanumeric c = true := by
  unfold cutScheme at h
  simp only at h
  split at h
  · split at h
    · exact absurd rfl h
    · rename_i c t hscheme
      split at h
      · exact absurd rfl h
      · rename_i hletter
        cases s with
        | nil => cases hscheme
        | cons d s =>
          have hd : d = c := by
            by_cases hchar : isSchemeChar d = true
            · rw [List.takeWhile_cons_of_pos hchar] at hscheme
              exact (List.cons.inj hscheme).1
            · rw [List.takeWhile_cons_of_neg hchar] at hscheme
              cases hscheme
          refine ⟨d, rfl, ?_⟩
          rw [hd]
          simp only [Bool.or_eq_true, Bool.not_eq_true', not_or, Bool.not_eq_false] at hletter
          exact hletter.2
  · exact absurd rfl h

/-- A text that reads as a URL with a scheme starts with a letter. -/
theorem isBlank_head? (h : parse base = .ok u) (hfront : InFront base) (hscheme : u.scheme ≠ "") :
    ∃ c ∈ base.toList.head?, Text.isBlank c = false := by
  obtain ⟨-, v, hread, rfl⟩ := exists_readFront h hfront
  have hcut : (cutScheme base.toList).1 ≠ [] := by
    intro hnil
    have hempty : v.scheme = "" := by
      rw [readFront_scheme hread, hnil]
      decide
    exact hscheme hempty
  obtain ⟨c, hc, hletter⟩ := cutScheme_head? hcut
  have hsafe : isUnreserved c = true := by simp [isUnreserved, hletter]
  exact ⟨c, hc, (isQueryChar_of_isUnreserved hsafe).2⟩

/-- Blanks round a URL with parameters are all that trimming drops. -/
theorem trimmed_pasted (h : parse base = .ok u) (hbase : InFront base) (hscheme : u.scheme ≠ "")
    {ps : List Param} (hps : ps ≠ []) {text : String} {front behind : List Char}
    (hblank : ∀ c ∈ front ++ behind, Text.isBlank c = true)
    (htext : text.toList = front ++ ((textWith base ps).toList ++ behind)) :
    Text.trimmed text = textWith base ps := by
  obtain ⟨hfront, hbehind⟩ := List.forall_mem_append.1 hblank
  obtain ⟨c, hc, hhead⟩ := isBlank_head? h hbase hscheme
  have hencode := encode_ne_nil hps
  rw [Text.trimmed, htext, Text.trim_append hfront hbehind, String.ofList_toList]
  · simp [toList_textWith]
  · rw [toList_textWith, List.head?_append, Option.mem_def.1 hc]
    exact fun d hd => Option.some.inj hd ▸ hhead
  · rw [toList_textWith]
    intro d hd
    have hmem : d ∈ encode ps := by
      rw [List.getLast?_append_of_ne_nil _ (List.cons_ne_nil _ _),
        List.getLast?_cons_of_ne_nil hencode] at hd
      exact List.mem_of_getLast? hd
    exact (isQueryChar_of_mem_encode ps d hmem).2

end Url

end Bearer
