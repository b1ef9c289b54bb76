import Bearer.Proofs.Requirement.Reading
import Bearer.Requirement.Display

/-!
# Requirements are told apart by their texts

The text of a requirement is read in one way only. Behind a word, an empty group or a closing
parenthesis stands a blank, another closing parenthesis or nothing, so a scope that is called `all`
or `not` is never taken for a group, and one called `and` never for a separator. What a text does
not say is the kind of a group of one part, and the two kinds mean the same there: `unified` makes
all of these groups alike, and two requirements of words with one text are the same once they are
unified.

* `isMet_unified`, `unified_of_isProper`: unifying keeps the meaning, and a requirement without
  groups of one part as it is.
* `unified_of_text`: requirements of words with the same text.
* `isWorded_of_parse`: what is read of a text is written in words.
-/
namespace Bearer.Requirement

open Operand (group)

/-! ## Groups -/

/-- Induction over a requirement, both kinds of groups in one case. -/
@[elab_as_elim]
theorem onGroups {motive : Requirement → Prop} (scope : ∀ s, motive (.scope s))
    (group : ∀ c ps, (∀ p ∈ ps, motive p) → motive (group c ps))
    (not : ∀ p, motive p → motive (.not p)) (p : Requirement) : motive p := by
  induction p with
  | scope s => exact scope s
  | all ps ih => exact group .and ps ih
  | any ps ih => exact group .or ps ih
  | not p ih => exact not p ih

/-- The name of a group. -/
def groupName : Connective → String
  | .and => "all"
  | .or => "any"

/-- What stands between the parts of a group. -/
def separator : Connective → String
  | .and => " and "
  | .or => " or "

theorem texts_eq_map (ps : List Requirement) : texts ps = ps.map text := by
  induction ps with
  | nil => rfl
  | cons p ps ih => rw [texts, ih, List.map_cons]

theorem text_group_cons (c : Connective) (p : Requirement) (ps : List Requirement) :
    text (group c (p :: ps)) =
      '(' :: (separated (separator c).toList ((p :: ps).map text) ++ [')']) := by
  cases c <;> rw [group, text, texts_eq_map] <;> rfl

theorem text_not (p : Requirement) : text (.not p) = "not".toList ++ '(' :: (text p ++ [')']) := by
  rw [text]
  rfl

/-! ## Groups of one part -/

/-- A group of the parts, of the first kind if there is only one. -/
def regroup (c : Connective) : List Requirement → Requirement
  | [p] => .all [p]
  | ps => group c ps

mutual

/-- A requirement with its groups of one part made groups of all. -/
def unified : Requirement → Requirement
  | .scope s => .scope s
  | .all ps => regroup .and (unifiedIn ps)
  | .any ps => regroup .or (unifiedIn ps)
  | .not p => .not (unified p)

/-- Each requirement of a list with its groups of one part made groups of all. -/
def unifiedIn : List Requirement → List Requirement
  | [] => []
  | p :: ps => unified p :: unifiedIn ps

end

theorem unifiedIn_eq_map (ps : List Requirement) : unifiedIn ps = ps.map unified := by
  induction ps with
  | nil => rfl
  | cons p ps ih => rw [unifiedIn, ih, List.map_cons]

theorem unified_group (c : Connective) (ps : List Requirement) :
    unified (group c ps) = regroup c (ps.map unified) := by
  cases c <;> rw [group, unified, unifiedIn_eq_map]

theorem isMet_regroup (held : List Scope) (c : Connective) (ps : List Requirement) :
    isMet held (regroup c ps) = isMet held (group c ps) := by
  match c, ps with
  | .and, [_] | .and, [] | .and, _ :: _ :: _ | .or, [] | .or, _ :: _ :: _ => rfl
  | .or, [p] => simp [regroup, group, isMet, allMet, anyMet]

theorem isMet_group (held : List Scope) (c : Connective) {ps qs : List Requirement}
    (h : ps.map (isMet held) = qs.map (isMet held)) :
    isMet held (group c ps) = isMet held (group c qs) := by
  cases c with
  | and =>
    have hall := congrArg (List.all · id) h
    simpa [group, isMet, allMet_eq_all, List.all_map] using hall
  | or =>
    have hany := congrArg (List.any · id) h
    simpa [group, isMet, anyMet_eq_any, List.any_map] using hany

/-- Unifying does not change what a requirement means. -/
theorem isMet_unified (held : List Scope) (p : Requirement) :
    isMet held (unified p) = isMet held p := by
  induction p using onGroups with
  | scope s => rfl
  | group c ps ih =>
    rw [unified_group, isMet_regroup]
    refine isMet_group held c ?_
    rw [List.map_map]
    exact List.map_congr_left ih
  | not p ih => rw [unified, isMet, isMet, ih]

mutual

/-- Whether no group of a requirement has exactly one part. -/
def isProper : Requirement → Bool
  | .scope _ => true
  | .all ps => ps.length != 1 && areProper ps
  | .any ps => ps.length != 1 && areProper ps
  | .not p => isProper p

/-- Whether no group in several requirements has exactly one part. -/
def areProper : List Requirement → Bool
  | [] => true
  | p :: ps => isProper p && areProper ps

end

theorem areProper_iff {ps : List Requirement} :
    areProper ps = true ↔ ∀ p ∈ ps, isProper p = true := by
  induction ps with
  | nil => simp [areProper]
  | cons p ps ih => simp [areProper, ih]

theorem isProper_group {c : Connective} {ps : List Requirement} :
    isProper (group c ps) = true ↔ ps.length ≠ 1 ∧ ∀ p ∈ ps, isProper p = true := by
  rw [← areProper_iff]
  cases c <;> simp [group, isProper]

theorem regroup_of_ne {c : Connective} {ps : List Requirement} (h : ps.length ≠ 1) :
    regroup c ps = group c ps := by
  match ps with
  | [_] => exact absurd rfl h
  | [] | _ :: _ :: _ => rfl

/-- The kind of a group counts if it has several parts or none. -/
theorem regroup_cons {c d : Connective} {p : Requirement} {ps : List Requirement}
    (h : ps ≠ [] → c = d) : regroup c (p :: ps) = regroup d (p :: ps) := by
  cases ps with
  | nil => rfl
  | cons p' ps => rw [h (List.cons_ne_nil p' ps)]

/-- A requirement without groups of one part is unified. -/
theorem unified_of_isProper {p : Requirement} (h : isProper p = true) : unified p = p := by
  induction p using onGroups with
  | scope s => rfl
  | group c ps ih =>
    obtain ⟨hlen, hps⟩ := isProper_group.1 h
    have hmap : ps.map unified = ps := by
      rw [List.map_congr_left fun p hp => ih p hp (hps p hp), List.map_id']
    rw [unified_group, hmap, regroup_of_ne hlen]
  | not p ih => rw [unified, ih h]

/-! ## Reading a text in one way -/

/-- What may stand behind the text of a part. -/
def EndsPart (s : List Char) : Prop := ∀ c ∈ s.head?, c = ' ' ∨ c = ')'

theorem endsPart_nil : EndsPart [] := nofun

theorem endsPart_close (s : List Char) : EndsPart (')' :: s) := by
  intro c hc
  cases hc
  exact .inr rfl

theorem endsPart_separator (c : Connective) (s : List Char) :
    EndsPart ((separator c).toList ++ s) := by
  intro d hd
  cases c <;> cases hd <;> exact .inl rfl

theorem not_endsPart_open (s : List Char) : ¬EndsPart ('(' :: s) := by
  intro h
  rcases h '(' rfl with hc | hc <;> cases hc

theorem EndsPart.isWordChar {s : List Char} (h : EndsPart s) :
    ∀ c ∈ s.head?, isWordChar c = false := by
  intro c hc
  rcases h c hc with rfl | rfl <;> decide

/-- The word in front of a text, and what follows it. -/
def cutWord (s : List Char) : List Char × List Char :=
  (s.takeWhile isWordChar, s.dropWhile isWordChar)

theorem cutWord_append {w s : List Char} (hw : ∀ c ∈ w, isWordChar c = true)
    (hs : ∀ c ∈ s.head?, isWordChar c = false) : cutWord (w ++ s) = (w, s) :=
  Prod.ext (cut_word hw hs).1 (cut_word hw hs).2

/-- What stands behind a part does not belong to the word in front. -/
theorem cutWord_endsPart {u s : List Char} (hs : EndsPart s) :
    cutWord (u ++ s) = ((cutWord u).1, (cutWord u).2 ++ s) := by
  have hu : ∀ c ∈ u.takeWhile isWordChar, isWordChar c = true := fun c hc =>
    List.mem_takeWhile_imp hc
  have hcut := cutWord_append (s := u.dropWhile isWordChar ++ s) hu ?_
  · rw [← List.append_assoc, List.takeWhile_append_dropWhile] at hcut
    exact hcut
  · intro c hc
    cases hd : u.dropWhile isWordChar with
    | nil =>
      rw [hd] at hc
      exact hs.isWordChar c hc
    | cons d r =>
      have hstop := List.head?_dropWhile_not isWordChar u
      rw [hd] at hc hstop
      cases hc
      simpa using hstop

/-- The word in front of the first parenthesis of a text: the name of an empty group or of a
negation, and nothing in front of the parts of a group. A scope has no parenthesis. -/
def opening : Requirement → Option (List Char)
  | .scope _ => none
  | .all [] => some "all".toList
  | .any [] => some "any".toList
  | .all (_ :: _) => some []
  | .any (_ :: _) => some []
  | .not _ => some "not".toList

theorem cutWord_scope {a : Scope} (h : IsWorded (.scope a)) :
    cutWord (text (.scope a)) = (a.text.toList, []) := by
  have hcut := cutWord_append (h a (List.mem_singleton.2 rfl)).2 (s := []) nofun
  rwa [List.append_nil] at hcut

theorem cutWord_of_opening {p : Requirement} {w : List Char} (h : opening p = some w) :
    ∃ r, cutWord (text p) = (w, '(' :: r) := by
  cases p using onGroups with
  | scope a => cases h
  | group c ps =>
    cases ps with
    | nil => cases c <;> cases h <;> exact ⟨_, rfl⟩
    | cons p ps =>
      rw [text_group_cons]
      cases c <;> cases h <;> exact ⟨_, rfl⟩
  | not p =>
    rw [text_not]
    cases h
    exact ⟨_, rfl⟩

theorem opening_group_cons (c : Connective) (p : Requirement) (ps : List Requirement) :
    opening (group c (p :: ps)) = some [] := by
  cases c <;> rfl

theorem eq_scope_of_opening {p : Requirement} (h : opening p = none) : ∃ a, p = .scope a := by
  cases p using onGroups with
  | scope a => exact ⟨a, rfl⟩
  | group c ps => cases c <;> cases ps <;> cases h
  | not p => cases h

theorem eq_group_nil_of_opening {c : Connective} {p : Requirement}
    (h : opening p = opening (group c [])) : p = group c [] := by
  cases p using onGroups with
  | scope a => cases c <;> cases h
  | group d ps => cases c <;> cases d <;> cases ps <;> first | rfl | cases h
  | not p => cases c <;> cases h

theorem eq_group_cons_of_opening {p : Requirement} (h : opening p = some []) :
    ∃ c q qs, p = group c (q :: qs) := by
  cases p using onGroups with
  | scope a => cases h
  | group c ps =>
    cases ps with
    | nil => cases c <;> cases h
    | cons q qs => exact ⟨c, q, qs, rfl⟩
  | not p => cases h

theorem eq_not_of_opening {p : Requirement} (h : opening p = some "not".toList) :
    ∃ q, p = .not q := by
  cases p using onGroups with
  | scope a => cases h
  | group c ps => cases c <;> cases ps <;> cases h
  | not p => exact ⟨p, rfl⟩

/-- Behind a scope there is no parenthesis. -/
theorem text_scope_append_ne {a : Scope} {q : Requirement} {w s t : List Char}
    (ha : IsWorded (.scope a)) (hs : EndsPart s) (ht : EndsPart t) (hq : opening q = some w) :
    text (.scope a) ++ s ≠ text q ++ t := by
  intro h
  have hcut := congrArg cutWord h
  obtain ⟨r, hr⟩ := cutWord_of_opening hq
  rw [cutWord_endsPart hs, cutWord_endsPart ht, cutWord_scope ha, hr] at hcut
  obtain ⟨-, rfl⟩ := Prod.mk.inj hcut
  exact not_endsPart_open _ hs

/-- The first characters of a text tell what kind of requirement it is. -/
theorem opening_eq {p q : Requirement} {s t : List Char} (hp : IsWorded p) (hq : IsWorded q)
    (hs : EndsPart s) (ht : EndsPart t) (h : text p ++ s = text q ++ t) :
    opening p = opening q := by
  cases hop : opening p with
  | none =>
    obtain ⟨a, rfl⟩ := eq_scope_of_opening hop
    cases hoq : opening q with
    | none => rfl
    | some w => exact absurd h (text_scope_append_ne hp hs ht hoq)
  | some v =>
    cases hoq : opening q with
    | none =>
      obtain ⟨b, rfl⟩ := eq_scope_of_opening hoq
      exact absurd h.symm (text_scope_append_ne hq ht hs hop)
    | some w =>
      have hcut := congrArg cutWord h
      obtain ⟨r, hr⟩ := cutWord_of_opening hop
      obtain ⟨r', hr'⟩ := cutWord_of_opening hoq
      rw [cutWord_endsPart hs, cutWord_endsPart ht, hr, hr'] at hcut
      exact congrArg some (Prod.mk.inj hcut).1

/-- The text of a part, whatever is behind it, is the text of no other part. -/
def IsReadable (p : Requirement) : Prop :=
  ∀ q s t, IsWorded q → EndsPart s → EndsPart t → text p ++ s = text q ++ t →
    unified p = unified q ∧ s = t

theorem separated_texts (sep : List Char) (p q : Requirement) (ps : List Requirement) :
    separated sep ((p :: q :: ps).map text) =
      text p ++ (sep ++ separated sep ((q :: ps).map text)) := by
  rw [List.map_cons, List.map_cons, separated, List.append_assoc]
  exact nofun

/-- Separators differ in their second character. -/
theorem separator_append {c d : Connective} {s t : List Char}
    (h : (separator c).toList ++ s = (separator d).toList ++ t) : c = d ∧ s = t := by
  cases c <;> cases d <;> simp_all [separator]

theorem close_ne_separator (c : Connective) (s t : List Char) :
    ')' :: s ≠ (separator c).toList ++ t := by
  cases c <;> simp [separator]

/-- The parts of a group are read one by one, and what stands between the first two tells its kind.
-/
theorem parts_append {c d : Connective} {p q : Requirement} {ps qs : List Requirement}
    {s t : List Char} (hp : ∀ r ∈ p :: ps, IsReadable r) (hq : ∀ r ∈ q :: qs, IsWorded r)
    (h : separated (separator c).toList ((p :: ps).map text) ++ ')' :: s =
      separated (separator d).toList ((q :: qs).map text) ++ ')' :: t) :
    (p :: ps).map unified = (q :: qs).map unified ∧ (ps ≠ [] → c = d) ∧ s = t := by
  induction ps generalizing p q qs with
  | nil =>
    have hread := hp p (List.mem_cons_self ..)
    cases qs with
    | nil =>
      obtain ⟨hpq, hst⟩ := hread q _ _ (hq q (List.mem_cons_self ..)) (endsPart_close s)
        (endsPart_close t) h
      cases hst
      exact ⟨by rw [List.map_singleton, List.map_singleton, hpq], nofun, rfl⟩
    | cons q' qs =>
      rw [separated_texts _ q, List.append_assoc, List.append_assoc] at h
      obtain ⟨-, hst⟩ := hread q _ _ (hq q (List.mem_cons_self ..)) (endsPart_close s)
        (endsPart_separator d _) h
      exact absurd hst (close_ne_separator d _ _)
  | cons p' ps ih =>
    have hread := hp p (List.mem_cons_self ..)
    rw [separated_texts _ p, List.append_assoc, List.append_assoc] at h
    cases qs with
    | nil =>
      obtain ⟨-, hst⟩ := hread q _ _ (hq q (List.mem_cons_self ..)) (endsPart_separator c _)
        (endsPart_close t) h
      exact absurd hst.symm (close_ne_separator c _ _)
    | cons q' qs =>
      rw [separated_texts _ q, List.append_assoc, List.append_assoc] at h
      obtain ⟨hpq, hst⟩ := hread q _ _ (hq q (List.mem_cons_self ..)) (endsPart_separator c _)
        (endsPart_separator d _) h
      obtain ⟨hcd, hrest⟩ := separator_append hst
      obtain ⟨hps, -, hend⟩ := ih (fun r hr => hp r (List.mem_cons_of_mem p hr))
        (fun r hr => hq r (List.mem_cons_of_mem q hr)) hrest
      exact ⟨by rw [List.map_cons, hpq, hps, ← List.map_cons], fun _ => hcd, hend⟩

theorem isWorded_group {c : Connective} {ps : List Requirement} :
    IsWorded (group c ps) ↔ ∀ p ∈ ps, IsWorded p := by
  unfold IsWorded
  cases c <;> simp only [group, mem_leaves_all, mem_leaves_any] <;> grind

/-- The text of a requirement of words is read in one way only. -/
theorem isReadable {p : Requirement} (hp : IsWorded p) : IsReadable p := by
  induction p using onGroups with
  | scope a =>
    intro q s t hq hs ht h
    obtain ⟨b, rfl⟩ := eq_scope_of_opening (opening_eq hp hq hs ht h).symm
    have hcut := congrArg cutWord h
    rw [cutWord_endsPart hs, cutWord_endsPart ht, cutWord_scope hp, cutWord_scope hq] at hcut
    obtain ⟨hab, rfl⟩ := Prod.mk.inj hcut
    rw [String.toList_inj, ← Scope.mk.injEq] at hab
    exact ⟨congrArg unified (congrArg Requirement.scope hab), rfl⟩
  | group c ps ih =>
    intro q s t hq hs ht h
    have hopen := opening_eq hp hq hs ht h
    cases ps with
    | nil =>
      rw [eq_group_nil_of_opening hopen.symm] at h ⊢
      exact ⟨rfl, List.append_cancel_left h⟩
    | cons p ps =>
      obtain ⟨d, q, qs, rfl⟩ :=
        eq_group_cons_of_opening (hopen.symm.trans (opening_group_cons c p ps))
      have hps := isWorded_group.1 hp
      rw [text_group_cons, text_group_cons, List.cons_append, List.cons_append,
        List.append_assoc, List.append_assoc] at h
      obtain ⟨hparts, hkind, hst⟩ := parts_append (fun r hr => ih r hr (hps r hr))
        (isWorded_group.1 hq) (List.cons.inj h).2
      rw [unified_group, unified_group, ← hparts]
      exact ⟨regroup_cons fun hne => hkind fun hnil => hne (by rw [hnil]; rfl), hst⟩
  | not p ih =>
    intro q s t hq hs ht h
    obtain ⟨q, rfl⟩ := eq_not_of_opening (opening_eq hp hq hs ht h).symm
    rw [text_not, text_not, List.append_assoc, List.append_assoc] at h
    have hinner := List.append_cancel_left h
    rw [List.cons_append, List.cons_append, List.append_assoc, List.append_assoc] at hinner
    obtain ⟨hpq, hst⟩ := ih hp q _ _ hq (endsPart_close s) (endsPart_close t)
      (List.cons.inj hinner).2
    exact ⟨by rw [unified, unified, hpq], (List.cons.inj hst).2⟩

/-- Requirements of words with one text are the same but for the kinds of groups of one part. -/
theorem unified_of_text {p q : Requirement} (hp : IsWorded p) (hq : IsWorded q)
    (h : text p = text q) : unified p = unified q :=
  (isReadable hp q [] [] hq endsPart_nil endsPart_nil (by rw [h])).1

/-! ## What is read is written in words -/

/-- Whether the words among some lexemes are words. -/
def AreSpelled (ts : List Token) : Prop := ∀ w, .word w ∈ ts → IsWord w

theorem Spells.areSpelled {s : List Char} {ts : List Token} (h : Spells s ts) :
    AreSpelled ts := by
  induction h with
  | nil => exact nofun
  | blank _ _ ih => exact ih
  | lparen _ ih | rparen _ ih | comma _ ih =>
    intro w hw
    exact ih w ((List.mem_cons.1 hw).resolve_left Token.noConfusion)
  | word hw _ _ ih =>
    intro v hv
    rcases List.mem_cons.1 hv with hv | hv
    · cases hv
      exact hw
    · exact ih v hv

theorem Named.isWorded {w : List Char} {ps : List Requirement} {r : Requirement}
    (h : Named w ps r) (hps : ∀ p ∈ ps, IsWorded p) : IsWorded r := by
  cases h with
  | all ps => exact isWorded_group (c := .and) |>.2 hps
  | any ps => exact isWorded_group (c := .or) |>.2 hps
  | not p => exact hps p (List.mem_singleton.2 rfl)

mutual

theorem Part.isWorded {ts : List Token} {p : Requirement} (h : Part Named ts p)
    (hts : AreSpelled ts) : IsWorded p :=
  match h with
  | .scope w => by
    intro s hs
    rw [List.mem_singleton.1 hs, String.toList_ofList]
    exact hts w (List.mem_singleton.2 rfl)
  | .group hus hr => hr.isWorded (hus.isWorded fun w hw => hts w (by simp [hw]))

theorem Parts.isWorded {ts : List Token} {ps : List Requirement} (h : Parts Named ts ps)
    (hts : AreSpelled ts) : ∀ p ∈ ps, IsWorded p :=
  match h with
  | .one hp => by
    intro q hq
    rw [List.mem_singleton.1 hq]
    exact hp.isWorded hts
  | .more hp hps => by
    intro q hq
    rcases List.mem_cons.1 hq with hqp | hq
    · rw [hqp]
      exact hp.isWorded fun w hw => hts w (List.mem_append_left _ hw)
    · exact hps.isWorded (fun w hw => hts w (by simp [hw])) q hq

theorem Listing.isWorded {ts : List Token} {ps : List Requirement} (h : Listing Named ts ps)
    (hts : AreSpelled ts) : ∀ p ∈ ps, IsWorded p :=
  match h with
  | .empty => nofun
  | .plain hps => hps.isWorded hts
  | .trailing hps => hps.isWorded fun w hw => hts w (List.mem_append_left _ hw)

end

theorem isWorded_conjunction {ps : List Requirement} (h : ∀ p ∈ ps, IsWorded p) :
    IsWorded (conjunction ps) := by
  match ps with
  | [p] => exact h p (List.mem_singleton.2 rfl)
  | [] | _ :: _ :: _ => exact isWorded_group (c := .and) |>.2 h

/-- What is read of a text is written in words. -/
theorem isWorded_of_parse {text : String} {r : Requirement} (h : parse text = .ok r) :
    IsWorded r := by
  obtain ⟨ps, ⟨ts, hspell, hlist⟩, rfl⟩ := parse_eq_ok_iff.1 h
  exact isWorded_conjunction (hlist.isWorded hspell.areSpelled)

/-! ## Texts tell requirements apart -/

/-- What is read of a text is written in words, and two requirements of words with one text are met
by the same scopes; if neither has a group of exactly one part, they are the same. -/
theorem display_tells_apart :
    (∀ text r, parse text = .ok r → IsWorded r) ∧
    ∀ p q, IsWorded p → IsWorded q → p.display = q.display →
      (∀ held, isMet held p = isMet held q) ∧
      (isProper p = true → isProper q = true → p = q) := by
  refine ⟨fun text r => isWorded_of_parse, fun p q hp hq h => ?_⟩
  have hunified := unified_of_text hp hq (String.ofList_injective h)
  refine ⟨fun held => ?_, fun hp' hq' => ?_⟩
  · rw [← isMet_unified held p, hunified, isMet_unified]
  · rw [← unified_of_isProper hp', hunified, unified_of_isProper hq']

/-- Scopes that are called like groups and separators. The first two requirements differ in the kind
of a group of one part; the last two have no such group, and are the same. -/
theorem display_tells_apart_keywords :
    let p : Requirement := .any [.all [.scope ⟨"all"⟩, .scope ⟨"and"⟩]]
    let q : Requirement := .all [.all [.scope ⟨"all"⟩, .scope ⟨"and"⟩]]
    (p.display = "((all and and))" ∧ q.display = "((all and and))" ∧ p ≠ q ∧
      ∀ held, isMet held p = isMet held q) ∧
    ∃ r t, parse "any(not, all(), not(or))" = .ok r ∧ parse "any(not,all(),not(or,),)" = .ok t ∧
      (r.display = "(not or all() or not(or))" ∧ t.display = "(not or all() or not(or))") ∧
      (isProper r = true ∧ isProper t = true) ∧ r = t := by
  intro p q
  have hp : parse "any(all(all,and))" = .ok p := by decide +kernel
  have hq : parse "all(all(all,and))" = .ok q := by decide +kernel
  have hpq := display_tells_apart.2 p q (display_tells_apart.1 _ p hp)
    (display_tells_apart.1 _ q hq) (by decide)
  let r : Requirement := .any [.scope ⟨"not"⟩, .all [], .not (.scope ⟨"or"⟩)]
  have hr : parse "any(not, all(), not(or))" = .ok r := by decide +kernel
  have ht : parse "any(not,all(),not(or,),)" = .ok r := by decide +kernel
  have hrt := display_tells_apart.2 r r (display_tells_apart.1 _ r hr)
    (display_tells_apart.1 _ r ht) rfl
  exact ⟨⟨by decide, by decide, by decide, hpq.1⟩, r, r, hr, ht, ⟨by decide, by decide⟩,
    ⟨by decide, by decide⟩, hrt.2 (by decide) (by decide)⟩

end Bearer.Requirement
