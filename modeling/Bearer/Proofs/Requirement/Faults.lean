import Bearer.Proofs.Requirement.Lexemes
import Bearer.Proofs.Requirement.Steps

/-!
# What a syntax fault points at

A text that is no requirement is refused at its first offence. That may be a character that belongs
nowhere; a lexeme that no list can go on with, when the lexemes before it could still become one;
the end of a text that could go on, but not end; or a group that has a list between its parentheses
but a name or a number of parts that no group has, the first such group to close.

Whether lexemes can go on is said by the lenient grammar, in which any word names a group of any
parts, because a group is looked at only when it closes. Two facts carry the proof. A list of the
lenient grammar is read unless a group in it is bad (`Reader.leads_of_listing`), so lexemes at which
reading fails for another reason are in front of no list. And what was read up to some lexeme is in
front of a list (`Reached.extendable`), since the open groups need only be closed.

* `reached_run`: what was read so far, as an invariant of the steps.
* `not_isBad_of_run`: nothing that was read holds a bad group.
* `points_of_error`: what each fault points at.
* `parse_points_at_first`: all of it, for every text that is refused.
-/
namespace Bearer.Requirement

variable {stack : List Group} {parts ps : List Requirement} {p : Requirement} {ts us : List Token}
  {qs outer inner before : List Placed} {q : Placed} {r r' : Reader} {f : SyntaxFault}
  {w : List Char} {n : Nat}

/-! ## The lenient grammar -/

/-- Any word names a group, and any parts make one of it. -/
def Lenient : GroupRule := fun _ _ _ => True

/-- The lexemes are a list of the lenient grammar. -/
def IsList (ts : List Token) : Prop :=
  ∃ ps, Listing Lenient ts ps

/-- The lexemes are a list of the lenient grammar, or become one when others follow. -/
def Extendable (ts : List Token) : Prop :=
  ∃ us, (∀ u ∈ us, u.IsLexeme) ∧ IsList (ts ++ us)

/-- `IsGroup group w p n`: the lexemes `group` are a group of the lenient grammar, of the name `w`
at the position `p` and of `n` parts. -/
inductive IsGroup : List Placed → List Char → Nat → Nat → Prop where
  | mk {us : List Placed} {ps : List Requirement} (w : List Char) (p m k : Nat) :
      Listing Lenient (us.map Placed.token) ps →
        IsGroup (⟨.word w, p⟩ :: ⟨.lparen, m⟩ :: (us ++ [⟨.rparen, k⟩])) w p ps.length

/-- No group has the name. -/
def IsUnknown (w : List Char) : Prop :=
  w ∉ ["all".toList, "any".toList, "not".toList]

/-- No group has the name and the number of parts. -/
def IsBad (w : List Char) (n : Nat) : Prop :=
  (w = "not".toList ∧ n ≠ 1) ∨ IsUnknown w

/-- What is said of a group that is none. -/
def SyntaxFault.IsOfGroup : SyntaxFault → Prop
  | .negationOf _ _ | .unknownGroup _ _ => True
  | .character _ _ | .endOfText | .commaExpected _ _ | .partExpected _ _ => False

/-- `Refuted g n f`: a group that is closed with `n` parts is none, and why. -/
inductive Refuted (g : Group) (n : Nat) : SyntaxFault → Prop where
  | negation : g.name = "not".toList → n ≠ 1 → Refuted g n (.negationOf n g.position)
  | unknown : IsUnknown g.name → Refuted g n (.unknownGroup g.name g.position)

theorem Refuted.isOfGroup {g : Group} (h : Refuted g n f) : f.IsOfGroup := by
  cases h <;> trivial

/-- A group closes unless it is bad. -/
theorem close_cases (g : Group) (ps : List Requirement) :
    (∃ p, g.close ps = .ok p ∧ ¬IsBad g.name ps.length) ∨
      ∃ f, g.close ps = .error f ∧ Refuted g ps.length f := by
  unfold Group.close
  split_ifs with hnot hall hany
  · obtain _ | ⟨p, _ | ⟨p', ps⟩⟩ := ps
    · exact .inr ⟨_, rfl, .negation hnot (by decide)⟩
    · exact .inl ⟨_, rfl, by simp [IsBad, IsUnknown, hnot]⟩
    · exact .inr ⟨_, rfl, .negation hnot (by simp)⟩
  · exact .inl ⟨_, rfl, by simp [IsBad, IsUnknown, hall]⟩
  · exact .inl ⟨_, rfl, by simp [IsBad, IsUnknown, hany]⟩
  · exact .inr ⟨_, rfl, .unknown (by simp_all [IsUnknown])⟩

/-! ## A list is read unless a group in it is bad -/

namespace Reader

/-- Reading comes to a state with the property, or to a group that is none. -/
def Leads (r : Reader) (qs : List Placed) (P : Reader → Prop) : Prop :=
  (∃ r', r.run qs = .ok r' ∧ P r') ∨ ∃ f, r.run qs = .error f ∧ f.IsOfGroup

theorem Leads.append {P Q : Reader → Prop} {rs : List Placed} (h : r.Leads qs P)
    (hnext : ∀ r', P r' → r'.Leads rs Q) : r.Leads (qs ++ rs) Q := by
  rcases h with ⟨r', hrun, hP⟩ | ⟨f, hrun, hf⟩
  · unfold Leads
    rw [run_append_ok hrun]
    exact hnext r' hP
  · exact .inr ⟨f, run_append_error hrun, hf⟩

theorem Leads.cons {Q : Reader → Prop} (h : r.step q = .ok r') (hnext : r'.Leads qs Q) :
    r.Leads (q :: qs) Q := by
  unfold Leads
  rw [run_cons_ok h]
  exact hnext

theorem Leads.imp {P Q : Reader → Prop} (h : r.Leads qs P) (himp : ∀ r', P r' → Q r') :
    r.Leads qs Q := by
  rcases h with ⟨r', hrun, hP⟩ | hfault
  · exact .inl ⟨r', hrun, himp r' hP⟩
  · exact .inr hfault

/-- The reading is in the list of a group, or outside of all, and has read so many parts of it. -/
structure At (stack : List Group) (n : Nat) (r : Reader) : Prop where
  stack : r.stack = stack
  count : r.read.length = n

/-- And it stands behind the last of them. -/
structure Past (stack : List Group) (n : Nat) (r : Reader) : Prop extends r.At stack n where
  spot : r.spot ≠ .start

theorem At.leads_rparen {g : Group} (h : r.At (g :: stack) n) (m : Nat) :
    r.Leads [⟨.rparen, m⟩] (Past stack (g.before.length + 1)) := by
  have hstep := step_rparen h.stack m
  rcases close_cases g r.read.reverse with ⟨p, hclose, -⟩ | ⟨f, hclose, hf⟩
  · rw [hclose] at hstep
    exact .inl ⟨_, run_cons_ok hstep, ⟨rfl, rfl⟩, Spot.noConfusion⟩
  · rw [hclose] at hstep
    exact .inr ⟨f, run_cons_error hstep, hf.isOfGroup⟩

mutual

/-- A part is read where one must stand, unless a group in it is bad. -/
theorem leads_of_part {ts : List Token} {p : Requirement} (h : Part Lenient ts p)
    (stack : List Group) (parts : List Requirement) (qs : List Placed)
    (hqs : qs.map Placed.token = ts) :
    Leads ⟨stack, parts, .start⟩ qs (Past stack (parts.length + 1)) :=
  match h with
  | .scope w => by
    obtain ⟨⟨_, n⟩, qs, rfl, rfl, h⟩ := List.map_eq_cons_iff.1 hqs
    obtain rfl := List.map_eq_nil_iff.1 h
    exact .inl ⟨_, rfl, ⟨rfl, rfl⟩, Spot.noConfusion⟩
  | @Part.group _ w _ ps _ hus _ => by
    obtain ⟨n, m, us, k, rfl, hmap⟩ := exists_of_map_token_group hqs
    refine .cons rfl (.cons rfl ?_)
    exact (leads_of_listing hus (⟨w, n, parts⟩ :: stack) [] us hmap).append
      fun r' hr' => hr'.leads_rparen k

/-- So are parts with commas between them. -/
theorem leads_of_parts {ts : List Token} {ps : List Requirement} (h : Parts Lenient ts ps)
    (stack : List Group) (parts : List Requirement) (qs : List Placed)
    (hqs : qs.map Placed.token = ts) :
    Leads ⟨stack, parts, .start⟩ qs (Past stack (parts.length + ps.length)) :=
  match h with
  | .one hp => leads_of_part hp stack parts qs hqs
  | @Parts.more _ _ _ p ps hp hps => by
    obtain ⟨us, xs, rfl, hus, hxs⟩ := List.map_eq_append_iff.1 hqs
    obtain ⟨⟨_, n⟩, vs, rfl, rfl, hvs⟩ := List.map_eq_cons_iff.1 hxs
    refine (leads_of_part hp stack parts us hus).append fun r hr => ?_
    refine .cons (step_comma hr.spot n) ?_
    have hrest := leads_of_parts hps r.stack r.read vs hvs
    rw [hr.stack, hr.count] at hrest
    rw [hr.stack, List.length_cons, Nat.add_comm ps.length, ← Nat.add_assoc]
    exact hrest

/-- So is a whole list. -/
theorem leads_of_listing {ts : List Token} {ps : List Requirement} (h : Listing Lenient ts ps)
    (stack : List Group) (parts : List Requirement) (qs : List Placed)
    (hqs : qs.map Placed.token = ts) :
    Leads ⟨stack, parts, .start⟩ qs (At stack (parts.length + ps.length)) :=
  match h with
  | .empty => by
    obtain rfl := List.map_eq_nil_iff.1 hqs
    exact .inl ⟨_, rfl, rfl, rfl⟩
  | .plain hps => (leads_of_parts hps stack parts qs hqs).imp fun _ hr => hr.toAt
  | .trailing hps => by
    obtain ⟨us, vs, rfl, hus, hvs⟩ := List.map_eq_append_iff.1 hqs
    obtain ⟨⟨_, n⟩, xs, rfl, rfl, hxs⟩ := List.map_eq_cons_iff.1 hvs
    obtain rfl := List.map_eq_nil_iff.1 hxs
    refine (leads_of_parts hps stack parts us hus).append fun r hr => ?_
    exact .inl ⟨_, run_cons_ok (step_comma hr.spot n), hr.stack, hr.count⟩

end

/-- Where a group must stand that is bad, reading does not get behind it. -/
theorem run_group_ne_ok {group : List Placed} {m : Nat} (h : IsGroup group w m n) (hbad : IsBad w n)
    (stack : List Group) (parts : List Requirement) (r : Reader) :
    run ⟨stack, parts, .start⟩ group ≠ .ok r := by
  obtain @⟨us, ps, w, m, k, l, hus⟩ := h
  have hopened :
      run ⟨stack, parts, .start⟩ (⟨.word w, m⟩ :: ⟨.lparen, k⟩ :: (us ++ [⟨.rparen, l⟩])) =
        run ⟨⟨w, m, parts⟩ :: stack, [], .start⟩ (us ++ [⟨.rparen, l⟩]) := rfl
  rw [hopened]
  rcases leads_of_listing hus (⟨w, m, parts⟩ :: stack) [] us rfl with
    ⟨r', hrun, hat⟩ | ⟨f, hrun, -⟩
  · have hstep := step_rparen hat.stack l
    have hcount : r'.read.reverse.length = ps.length := by
      rw [List.length_reverse, hat.count, List.length_nil, Nat.zero_add]
    rcases close_cases ⟨w, m, parts⟩ r'.read.reverse with ⟨p, -, hgood⟩ | ⟨f, hclose, -⟩
    · rw [hcount] at hgood
      exact absurd hbad hgood
    · rw [hclose] at hstep
      rw [run_append_ok hrun, run_cons_error hstep]
      exact nofun
  · rw [run_append_error hrun]
    exact nofun

/-- Where a word is read, a part must stand. -/
theorem eq_start_of_step_word (h : r.step ⟨.word w, n⟩ = .ok r') :
    r = ⟨r.stack, r.parts, .start⟩ := by
  cases advances_of_step h
  rfl

/-- Nothing that was read holds a bad group. -/
theorem not_isBad_of_run {left group right : List Placed} {m : Nat}
    (h : r.run (left ++ (group ++ right)) = .ok r') (hgroup : IsGroup group w m n) :
    ¬IsBad w n := by
  intro hbad
  rw [run_append] at h
  cases hleft : r.run left with
  | error f =>
    rw [hleft] at h
    cases h
  | ok r₁ =>
    rw [hleft] at h
    replace h : r₁.run (group ++ right) = .ok r' := h
    rw [run_append] at h
    cases hrun : r₁.run group with
    | error f =>
      rw [hrun] at h
      cases h
    | ok r₂ =>
      -- the group starts with a word, so it stands where a part must
      have hstart : r₁ = ⟨r₁.stack, r₁.parts, .start⟩ := by
        obtain @⟨us, ps, w, m, k, l, hus⟩ := hgroup
        cases hstep : r₁.step ⟨.word w, m⟩ with
        | error f =>
          rw [run_cons_error hstep] at hrun
          cases hrun
        | ok r₃ => exact eq_start_of_step_word hstep
      rw [hstart] at hrun
      exact run_group_ne_ok hgroup hbad _ _ _ hrun

end Reader

/-! ## What was read so far -/

/-- `Begun ts ps`: the lexemes `ts` are the parts `ps` of a list that may go on with a part. -/
inductive Begun : List Token → List Requirement → Prop where
  | nothing : Begun [] []
  | comma {ts : List Token} {ps : List Requirement} :
      Parts Lenient ts ps → Begun (ts ++ [.comma]) ps

theorem Begun.listing (h : Begun ts ps) : Listing Lenient ts ps := by
  cases h with
  | nothing => exact .empty
  | comma h => exact .trailing h

/-- One more part behind others. -/
theorem Parts.snoc {G : GroupRule} {ts us : List Token} {ps : List Requirement} {p : Requirement}
    (h : Parts G ts ps) (hp : Part G us p) : Parts G (ts ++ .comma :: us) (ps ++ [p]) :=
  match h with
  | .one h => .more h (.one hp)
  | .more h hps => by
    rw [List.append_assoc]
    exact .more h (hps.snoc hp)

theorem Begun.toParts (h : Begun ts ps) (hp : Part Lenient us p) :
    Parts Lenient (ts ++ us) (ps ++ [p]) := by
  cases h with
  | nothing => exact .one hp
  | comma h =>
    rw [List.append_assoc]
    exact h.snoc hp

/-- `Around stack outer`: the lexemes `outer` open the groups of the stack, and what stands around
each is the beginning of a list. -/
inductive Around : List Group → List Placed → Prop where
  | nothing : Around [] []
  | group {g : Group} {stack : List Group} {outer qs : List Placed} (n : Nat) :
      Around stack outer → Begun (qs.map Placed.token) g.before.reverse →
        Around (g :: stack) (outer ++ (qs ++ [⟨.word g.name, g.position⟩, ⟨.lparen, n⟩]))

/-- `Innermost r inner`: the lexemes `inner` are what was read of the innermost list. -/
inductive Innermost : Reader → List Placed → Prop where
  | start {stack : List Group} {parts : List Requirement} {qs : List Placed} :
      Begun (qs.map Placed.token) parts.reverse → Innermost ⟨stack, parts, .start⟩ qs
  | named {stack : List Group} {parts : List Requirement} {qs : List Placed} (w : List Char)
      (n : Nat) : Begun (qs.map Placed.token) parts.reverse →
        Innermost ⟨stack, parts, .named w n⟩ (qs ++ [⟨.word w, n⟩])
  | behind {stack : List Group} {parts : List Requirement} {qs : List Placed} :
      Parts Lenient (qs.map Placed.token) parts.reverse → Innermost ⟨stack, parts, .behind⟩ qs

/-- `Reached r qs`: reading the lexemes `qs` leads to `r`. -/
def Reached (r : Reader) (qs : List Placed) : Prop :=
  ∃ outer inner, qs = outer ++ inner ∧ Around r.stack outer ∧ Innermost r inner

theorem Innermost.toParts (h : Innermost r inner) (hspot : r.spot ≠ .start) :
    Parts Lenient (inner.map Placed.token) r.read.reverse := by
  cases h with
  | start h => exact absurd rfl hspot
  | named w n h =>
    rw [List.map_append, Reader.read, List.reverse_cons]
    exact h.toParts (.scope w)
  | behind h => exact h

theorem Innermost.listing (h : Innermost r inner) :
    Listing Lenient (inner.map Placed.token) r.read.reverse := by
  by_cases hspot : r.spot = .start
  · cases h with
    | start h => exact h.listing
    | named | behind => cases hspot
  · exact .plain (h.toParts hspot)

/-- The lexemes of a group whose list is complete. -/
theorem part_of_innermost (h : Innermost r inner) (w : List Char) (n m k : Nat) (p : Requirement) :
    Part Lenient ((⟨.word w, n⟩ :: ⟨.lparen, m⟩ :: (inner ++ [⟨.rparen, k⟩])).map Placed.token)
      p := by
  have hpart := Part.group (w := w) (r := p) h.listing trivial
  simpa using hpart

/-- One step further. -/
theorem reached_step (h : Reached r qs) (hstep : r.step q = .ok r') : Reached r' (qs ++ [q]) := by
  obtain ⟨outer, inner, rfl, hall, hin⟩ := h
  cases Reader.advances_of_step hstep with
  | word stack parts w n =>
    cases hin with
    | start hin =>
      exact ⟨outer, inner ++ [⟨.word w, n⟩], List.append_assoc .., hall, .named w n hin⟩
  | opening stack parts w n m =>
    cases hin with
    | @named _ _ vs _ _ hin =>
      refine ⟨_, [], ?_, .group m hall hin, .start .nothing⟩
      simp
  | comma _ n hspot =>
    refine ⟨outer, inner ++ [⟨.comma, n⟩], List.append_assoc .., hall, .start ?_⟩
    rw [List.map_append]
    exact .comma (hin.toParts hspot)
  | @closing _ g stack p n hstack hclose =>
    rw [hstack] at hall
    cases hall with
    | @group _ _ outer vs m hall hbegun =>
      refine ⟨outer,
        vs ++ (⟨.word g.name, g.position⟩ :: ⟨.lparen, m⟩ :: (inner ++ [⟨.rparen, n⟩])),
        by simp, hall, .behind ?_⟩
      rw [List.map_append, List.reverse_cons]
      exact hbegun.toParts (part_of_innermost hin g.name g.position m n p)

theorem reached_run {rs : List Placed} (h : Reached r qs) (hrun : r.run rs = .ok r') :
    Reached r' (qs ++ rs) := by
  induction rs generalizing r qs with
  | nil =>
    cases hrun
    rwa [List.append_nil]
  | cons q rs ih =>
    cases hstep : r.step q with
    | error f =>
      rw [Reader.run_cons_error hstep] at hrun
      cases hrun
    | ok r₁ =>
      rw [Reader.run_cons_ok hstep] at hrun
      have hrest := ih (reached_step h hstep) hrun
      rwa [List.append_assoc] at hrest

/-- A list inside of open groups becomes a list when they are closed. -/
theorem Around.extendable (h : Around stack outer) {ts : List Token} (hts : IsList ts) :
    Extendable (outer.map Placed.token ++ ts) := by
  induction h generalizing ts with
  | nothing => exact ⟨[], by simp, by simpa using hts⟩
  | @group g stack outer qs n _ hbegun ih =>
    obtain ⟨ps, hps⟩ := hts
    have hpart : Part Lenient (.word g.name :: .lparen :: (ts ++ [.rparen])) (.all []) :=
      .group hps trivial
    obtain ⟨us, hus, hlist⟩ := ih ⟨_, .plain (hbegun.toParts hpart)⟩
    refine ⟨.rparen :: us, List.forall_mem_cons.2 ⟨isLexeme_of_isWord_eq_false rfl, hus⟩, ?_⟩
    simpa using hlist

theorem Reached.extendable (h : Reached r qs) : Extendable (qs.map Placed.token) := by
  obtain ⟨outer, inner, rfl, hall, hin⟩ := h
  rw [List.map_append]
  exact hall.extendable ⟨_, hin.listing⟩

/-! ## What each fault points at -/

/-- A reading at its beginning. -/
def Reader.initial : Reader := ⟨[], [], .start⟩

theorem reached_initial (h : Reader.initial.run qs = .ok r) : Reached r qs := by
  have hnothing : Innermost Reader.initial [] := .start .nothing
  exact reached_run ⟨[], [], rfl, .nothing, hnothing⟩ h

/-- In front of a list reading fails only at a group that is none. -/
theorem isOfGroup_of_run (h : Reader.initial.run qs = .error f)
    (hqs : Extendable (qs.map Placed.token)) : f.IsOfGroup := by
  obtain ⟨us, -, ps, hps⟩ := hqs
  let rest : List Placed := us.map fun u => ⟨u, 0⟩
  have hrest : (qs ++ rest).map Placed.token = qs.map Placed.token ++ us := by
    simp [rest, Function.comp_def]
  rcases Reader.leads_of_listing hps [] [] (qs ++ rest) hrest with
    ⟨r, hrun, -⟩ | ⟨f', hrun, hf'⟩
  · rw [← Reader.initial, Reader.run_append_error h] at hrun
    cases hrun
  · rw [← Reader.initial, Reader.run_append_error h] at hrun
    cases hrun
    exact hf'

/-- The piece of the text at the position of a lexeme is that lexeme. -/
def Stands (text : String) (q : Placed) : Prop :=
  (text.toList.drop q.position).take q.token.lexeme.length = q.token.lexeme

/-- A lexeme of the text that the lexemes before it cannot go on with, though they can go on. -/
def Misplaced (text : String) (qs : List Placed) (q : Placed) : Prop :=
  ∃ before after, qs = before ++ q :: after ∧ Stands text q ∧
    Extendable (before.map Placed.token) ∧ ¬Extendable ((before ++ [q]).map Placed.token)

/-- Of the bad groups of a text the first to close, its name, the position of the name in the text,
and the number of its parts. -/
def FirstBad (text : String) (qs : List Placed) (w : List Char) (p n : Nat) : Prop :=
  ∃ before group after, qs = before ++ (group ++ after) ∧ Stands text ⟨.word w, p⟩ ∧
    IsGroup group w p n ∧ IsBad w n ∧
    ∀ left other right v m k, qs = left ++ (other ++ right) → IsGroup other v m k → IsBad v k →
      (before ++ group).length ≤ (left ++ other).length

/-- `Points text qs f message`: of the text that is cut into `qs` the fault and its message say what
is true. -/
inductive Points (text : String) (qs : List Placed) : SyntaxFault → String → Prop where
  | endOfText : Extendable (qs.map Placed.token) → ¬IsList (qs.map Placed.token) →
      Points text qs .endOfText ("Unexpected end of expression in " ++ Text.quoted text)
  | comma {q : Placed} : Misplaced text qs q →
      Points text qs (.commaExpected q.position q.token)
        ("Expected ',' at position " ++ toString q.position ++ ", found " ++
          Text.quoted (String.ofList q.token.lexeme))
  | part {q : Placed} : Misplaced text qs q →
      Points text qs (.partExpected q.position q.token)
        ("Expected a scope or group at position " ++ toString q.position ++ ", found " ++
          Text.quoted (String.ofList q.token.lexeme))
  | negation {p n : Nat} : FirstBad text qs "not".toList p n → n ≠ 1 →
      Points text qs (.negationOf n p)
        ("not() at position " ++ toString p ++ " takes exactly one expression, got " ++ toString n)
  | unknown {w : List Char} {p n : Nat} : FirstBad text qs w p n → IsUnknown w →
      Points text qs (.unknownGroup w p)
        ("Unknown group " ++ Text.quoted (String.ofList w) ++ " at position " ++ toString p ++
          "; expected all, any or not")

section Pointing

variable {text : String} (hscan : scan 0 text.toList = .ok qs)

include hscan

theorem stands_of_mem (hq : q ∈ qs) : Stands text q :=
  (isCutInto_of_scan hscan).slice q hq

/-- A lexeme that does not belong where it stands. -/
theorem points_expects {after : List Placed} (hqs : qs = before ++ q :: after)
    (hrun : Reader.initial.run before = .ok r) (hstep : r.step q = .error (r.expects q)) :
    Points text qs (r.expects q) ((r.expects q).message text) := by
  have hfail : Reader.initial.run (before ++ [q]) = .error (r.expects q) := by
    rw [Reader.run_append_ok hrun, Reader.run_cons_error hstep]
  have hother : ¬(r.expects q).IsOfGroup := by
    unfold Reader.expects
    split <;> exact id
  have hmisplaced : Misplaced text qs q :=
    ⟨before, after, hqs, stands_of_mem hscan (by simp [hqs]), (reached_initial hrun).extendable,
      fun h => hother (isOfGroup_of_run hfail h)⟩
  unfold Reader.expects
  split
  · exact .part hmisplaced
  · exact .comma hmisplaced
  · exact .comma hmisplaced

omit hscan in
/-- A bad group closes behind what was read. -/
theorem length_lt_of_isBad {left other right after : List Placed} {m : Nat}
    (hqs : qs = before ++ q :: after) (hrun : Reader.initial.run before = .ok r)
    (hother : qs = left ++ (other ++ right)) (hgroup : IsGroup other w m n) (hbad : IsBad w n) :
    before.length < (left ++ other).length := by
  by_contra hle
  have hread : List.IsPrefix before qs := ⟨q :: after, hqs.symm⟩
  have hclosed : List.IsPrefix (left ++ other) qs := ⟨right, by rw [hother, List.append_assoc]⟩
  obtain ⟨rest, hrest⟩ := List.prefix_of_prefix_length_le hclosed hread (Nat.not_lt.1 hle)
  rw [← hrest, List.append_assoc] at hrun
  exact Reader.not_isBad_of_run hrun hgroup hbad

/-- A group that closes and is none. -/
theorem points_close {g : Group} {after : List Placed} (hqs : qs = before ++ ⟨.rparen, n⟩ :: after)
    (hrun : Reader.initial.run before = .ok r) (hstack : r.stack = g :: stack)
    (hf : Refuted g r.read.reverse.length f) : Points text qs f (f.message text) := by
  obtain ⟨outer, inner, hbefore, hall, hin⟩ := reached_initial hrun
  rw [hstack] at hall
  cases hall with
  | @group _ _ outer vs m _ _ =>
    let group : List Placed :=
      ⟨.word g.name, g.position⟩ :: ⟨.lparen, m⟩ :: (inner ++ [⟨.rparen, n⟩])
    have hsplit : qs = (outer ++ vs) ++ (group ++ after) := by
      rw [hqs, hbefore]
      simp [group]
    have hlength : (outer ++ vs ++ group).length = before.length + 1 := by
      rw [hbefore]
      simp [group]
      omega
    have hfirst : IsBad g.name r.read.reverse.length →
        FirstBad text qs g.name g.position r.read.reverse.length := by
      refine fun hbad => ⟨outer ++ vs, group, after, hsplit, stands_of_mem hscan ?_,
        .mk g.name g.position m n hin.listing, hbad, ?_⟩
      · simp [hsplit, group]
      · intro left other right v l k hother hgroup hbad'
        rw [hlength]
        exact length_lt_of_isBad hqs hrun hother hgroup hbad'
    cases hf with
    | negation hname hcount =>
      have hbad := hfirst (.inl ⟨hname, hcount⟩)
      rw [hname] at hbad
      exact .negation hbad hcount
    | unknown hname => exact .unknown (hfirst (.inr hname)) hname

theorem points_of_error (h : part [] [] qs = .error f) : Points text qs f (f.message text) := by
  rw [Reader.part_eq_run, ← Reader.initial] at h
  cases hrun : Reader.initial.run qs with
  | error f' =>
    rw [hrun] at h
    cases h
    obtain ⟨before, q, after, r, hqs, hbefore, hstep⟩ := Reader.run_eq_error hrun
    cases Reader.refuses_of_step hstep with
    | misplaced => exact points_expects hscan hqs hbefore hstep
    | @closing g stack _ n hstack hclose =>
      rcases close_cases g r.read.reverse with ⟨p, hok, -⟩ | ⟨f', herror, hf⟩
      · rw [hclose] at hok
        cases hok
      · rw [hclose] at herror
        cases herror
        exact points_close hscan hqs hbefore hstack hf
  | ok r =>
    rw [hrun] at h
    replace h : r.finish = .error f := h
    have hreached := reached_initial hrun
    unfold Reader.finish at h
    split at h
    · cases h
    · rename_i hstack
      cases h
      refine .endOfText hreached.extendable fun ⟨ps, hps⟩ => hstack ?_
      rcases Reader.leads_of_listing hps [] [] qs rfl with ⟨r', hrun', hat⟩ | ⟨f, hrun', -⟩
      · rw [← Reader.initial, hrun] at hrun'
        cases hrun'
        rw [hat.stack]
        rfl
      · rw [← Reader.initial, hrun] at hrun'
        cases hrun'

end Pointing

/-- A text that is refused is refused at its first offence: a character that belongs nowhere, or
else what the fault points at in the lexemes of the text. -/
theorem parse_points_at_first {text : String} {e : SyntaxError} (h : parse text = .error e) :
    e.text = text ∧
    ((∃ before c after, text.toList = before ++ c :: after ∧ (∀ d ∈ before, IsAdmitted d) ∧
        ¬IsAdmitted c ∧ e.fault = .character c before.length ∧
        e.message = "Unexpected character " ++ Text.quoted c.toString ++ " at position " ++
          toString before.length) ∨
      (∀ c ∈ text.toList, IsAdmitted c) ∧
        ∃ qs, scan 0 text.toList = .ok qs ∧ Points text qs e.fault e.message) := by
  unfold parse at h
  rcases scan_cases 0 text.toList with
    ⟨hall, qs, hscan⟩ | ⟨before, c, after, htext, hbefore, hc, hscan⟩
  · rw [hscan] at h
    cases hpart : part [] [] qs with
    | ok r =>
      rw [Except.bind, hpart] at h
      cases h
    | error f =>
      rw [Except.bind, hpart] at h
      cases h
      exact ⟨rfl, .inr ⟨hall, qs, hscan, points_of_error hscan hpart⟩⟩
  · rw [hscan, Nat.zero_add] at h
    cases h
    exact ⟨rfl, .inl ⟨before, c, after, htext, hbefore, hc, rfl, rfl⟩⟩

theorem parse_points_at_first_group :
    parse "any(all(a), foo(b, c), not())" =
      .error ⟨"any(all(a), foo(b, c), not())", .unknownGroup "foo".toList 12⟩ ∧
    ∃ qs, scan 0 "any(all(a), foo(b, c), not())".toList = .ok qs ∧
      Points "any(all(a), foo(b, c), not())" qs (.unknownGroup "foo".toList 12)
        "Unknown group 'foo' at position 12; expected all, any or not" := by
  have h : parse "any(all(a), foo(b, c), not())" =
      .error ⟨"any(all(a), foo(b, c), not())", .unknownGroup "foo".toList 12⟩ := by decide +kernel
  have hmessage : SyntaxError.message ⟨"any(all(a), foo(b, c), not())",
      .unknownGroup "foo".toList 12⟩ =
        "Unknown group 'foo' at position 12; expected all, any or not" := by decide +kernel
  refine ⟨h, ?_⟩
  rcases (parse_points_at_first h).2 with ⟨_, _, _, -, -, -, hfault, -⟩ | ⟨-, qs, hscan, hpoints⟩
  · cases hfault
  · rw [hmessage] at hpoints
    exact ⟨qs, hscan, hpoints⟩

end Bearer.Requirement
