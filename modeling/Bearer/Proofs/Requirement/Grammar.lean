import Bearer.Proofs.Requirement.Nodes
import Bearer.Proofs.Requirement.Spelling
import Bearer.Requirement.Expression

/-!
# The grammar of requirements

A list is empty, or parts with a comma between each two and perhaps one more at the end; a part is
a word, or a word in front of a list between parentheses. Which words name a group there, and what
a group makes of its parts, is a parameter of the grammar: `Named` has `all`, `any` and `not` with
a single part. The grammar says nothing of how it is read. `part` and `next` read it with one lexeme
of look-ahead and a stack of open groups, and they accept exactly its lists.

* `Listing.read`: a list is read as its parts where a list may end behind it.
* `readsFirst_of_part`: where reading succeeds it reads a list first.
* `part_eq_ok_iff`: the lexemes that are read, and what they are read as.
-/
namespace Bearer.Requirement

/-- What a word makes of the parts between the parentheses behind it. -/
abbrev GroupRule := List Char → List Requirement → Requirement → Prop

/-- The groups that there are. -/
inductive Named : GroupRule where
  | all (ps : List Requirement) : Named "all".toList ps (.all ps)
  | any (ps : List Requirement) : Named "any".toList ps (.any ps)
  | not (p : Requirement) : Named "not".toList [p] (.not p)

variable {G : GroupRule}

mutual

/-- `Part G ts p`: the lexemes `ts` are one part, the requirement `p`. A word alone is a scope,
whatever it is; what follows a part in a list is never an opening parenthesis. -/
inductive Part (G : GroupRule) : List Token → Requirement → Prop where
  | scope (w : List Char) : Part G [.word w] (.scope ⟨String.ofList w⟩)
  | group {w : List Char} {ts : List Token} {ps : List Requirement} {r : Requirement} :
      Listing G ts ps → G w ps r → Part G (.word w :: .lparen :: (ts ++ [.rparen])) r

/-- `Parts G ts ps`: the lexemes `ts` are the parts `ps`, at least one, with commas between. -/
inductive Parts (G : GroupRule) : List Token → List Requirement → Prop where
  | one {ts : List Token} {p : Requirement} : Part G ts p → Parts G ts [p]
  | more {ts us : List Token} {p : Requirement} {ps : List Requirement} :
      Part G ts p → Parts G us ps → Parts G (ts ++ .comma :: us) (p :: ps)

/-- `Listing G ts ps`: the lexemes `ts` are the list of the parts `ps`. -/
inductive Listing (G : GroupRule) : List Token → List Requirement → Prop where
  | empty : Listing G [] []
  | plain {ts : List Token} {ps : List Requirement} : Parts G ts ps → Listing G ts ps
  | trailing {ts : List Token} {ps : List Requirement} :
      Parts G ts ps → Listing G (ts ++ [.comma]) ps

end

/-- A part in front of a list that starts with its comma, or of nothing. -/
theorem Listing.cons {ts us : List Token} {p : Requirement} {ps : List Requirement}
    (hp : Part G ts p) (hus : Listing G us ps) : Listing G (ts ++ .comma :: us) (p :: ps) := by
  cases hus with
  | empty => exact .trailing (.one hp)
  | plain h => exact .plain (.more hp h)
  | @trailing vs _ h =>
    have ht := Listing.trailing (Parts.more hp h)
    rwa [List.append_assoc, List.cons_append] at ht

/-! ## One step of reading -/

/-- A lexeme that does not open a group. -/
def NotOpening (rest : List Placed) : Prop := ∀ q ∈ rest.head?, q.token ≠ .lparen

theorem notOpening_nil : NotOpening [] := by
  intro q hq
  cases hq

theorem notOpening_cons {q : Placed} (h : q.token ≠ .lparen) (rest : List Placed) :
    NotOpening (q :: rest) := by
  intro q' hq'
  cases hq'
  exact h

theorem notOpening_comma (n : Nat) (rest : List Placed) : NotOpening (⟨.comma, n⟩ :: rest) :=
  notOpening_cons Token.noConfusion rest

theorem notOpening_or (rest : List Placed) :
    NotOpening rest ∨ ∃ n qs, rest = ⟨.lparen, n⟩ :: qs := by
  match rest with
  | [] => exact .inl notOpening_nil
  | ⟨.lparen, n⟩ :: qs => exact .inr ⟨n, qs, rfl⟩
  | ⟨.word _, _⟩ :: _ | ⟨.rparen, _⟩ :: _ | ⟨.comma, _⟩ :: _ =>
    exact .inl (notOpening_cons Token.noConfusion _)

/-- Where a list may end: at the end of the text, or where the innermost group closes. -/
def EndsList (stack : List Group) : List Placed → Prop
  | [] => True
  | q :: _ => q.token = .rparen ∧ stack ≠ []

theorem EndsList.notOpening {stack : List Group} {rest : List Placed} (h : EndsList stack rest) :
    NotOpening rest := by
  cases rest with
  | nil => exact notOpening_nil
  | cons q rest =>
    refine notOpening_cons ?_ rest
    rw [h.1]
    exact Token.noConfusion

/-- Where a list ends, it does not matter whether a comma came last. -/
theorem part_eq_next {stack : List Group} {rest : List Placed} (h : EndsList stack rest)
    (parts : List Requirement) : part stack parts rest = next stack parts rest := by
  cases rest with
  | nil => rw [part, next]
  | cons q rest =>
    obtain ⟨t, n⟩ := q
    obtain ⟨rfl, hs⟩ := h
    cases stack with
    | nil => exact absurd rfl hs
    | cons g stack => rw [part, next]

theorem part_word {rest : List Placed} (h : NotOpening rest) (stack : List Group)
    (parts : List Requirement) (w : List Char) (n : Nat) :
    part stack parts (⟨.word w, n⟩ :: rest) =
      next stack (.scope ⟨String.ofList w⟩ :: parts) rest := by
  rw [part]
  rintro m ts rfl
  exact h _ rfl rfl

theorem close_eq_ok_iff {g : Group} {ps : List Requirement} {r : Requirement} :
    g.close ps = .ok r ↔ Named g.name ps r := by
  obtain ⟨w, n, before⟩ := g
  constructor
  · intro h
    unfold Group.close at h
    split at h
    · rename_i hw
      split at h
      · cases h
        exact hw ▸ Named.not _
      · cases h
    · split at h
      · rename_i hw
        cases h
        exact hw ▸ Named.all ps
      · split at h
        · rename_i hw
          cases h
          exact hw ▸ Named.any ps
        · cases h
  · intro h
    cases h with
    | all ps => rfl
    | any ps => rfl
    | not p => rfl

theorem next_close {g : Group} {stack : List Group} {parts : List Requirement} {r : Requirement}
    (h : Named g.name parts.reverse r) (n : Nat) (rest : List Placed) :
    next (g :: stack) parts (⟨.rparen, n⟩ :: rest) = next stack (r :: g.before) rest := by
  rw [next]
  simp only [close_eq_ok_iff.2 h]

/-! ## What the grammar has is read -/

/-- Lexemes with their positions that are a word, an opening parenthesis, others, and the closing
one. -/
theorem exists_of_map_token_group {qs : List Placed} {w : List Char} {ts : List Token}
    (h : qs.map Placed.token = .word w :: .lparen :: (ts ++ [.rparen])) :
    ∃ n m us k, qs = ⟨.word w, n⟩ :: ⟨.lparen, m⟩ :: (us ++ [⟨.rparen, k⟩]) ∧
      us.map Placed.token = ts := by
  obtain ⟨⟨_, n⟩, qs, rfl, rfl, hqs⟩ := List.map_eq_cons_iff.1 h
  obtain ⟨⟨_, m⟩, vs, rfl, rfl, hvs⟩ := List.map_eq_cons_iff.1 hqs
  obtain ⟨us, xs, rfl, hus, hxs⟩ := List.map_eq_append_iff.1 hvs
  obtain ⟨⟨_, k⟩, ys, rfl, rfl, hys⟩ := List.map_eq_cons_iff.1 hxs
  obtain rfl := List.map_eq_nil_iff.1 hys
  exact ⟨n, m, us, k, rfl, hus⟩

mutual

/-- A part is read where one must stand, unless what follows makes a group of it. -/
theorem Part.read {ts : List Token} {p : Requirement} (h : Part Named ts p) (stack : List Group)
    (parts : List Requirement) (qs : List Placed) {rest : List Placed}
    (hqs : qs.map Placed.token = ts) (hrest : NotOpening rest) :
    part stack parts (qs ++ rest) = next stack (p :: parts) rest :=
  match h with
  | .scope w => by
    obtain ⟨⟨_, n⟩, qs, rfl, rfl, h⟩ := List.map_eq_cons_iff.1 hqs
    obtain rfl := List.map_eq_nil_iff.1 h
    exact part_word hrest stack parts w n
  | @Part.group _ w _ ps r hus hr => by
    obtain ⟨n, m, us, k, rfl, hmap⟩ := exists_of_map_token_group hqs
    have hend : EndsList (⟨w, n, parts⟩ :: stack) (⟨.rparen, k⟩ :: rest) :=
      ⟨rfl, List.cons_ne_nil _ _⟩
    have hnamed : Named w (ps.reverse ++ []).reverse r := by
      rwa [List.append_nil, List.reverse_reverse]
    rw [List.cons_append, List.cons_append, List.append_assoc, part, List.singleton_append,
      hus.read _ [] us hmap hend]
    exact next_close (g := ⟨w, n, parts⟩) hnamed k rest

/-- So are parts with commas between them. -/
theorem Parts.read {ts : List Token} {ps : List Requirement} (h : Parts Named ts ps)
    (stack : List Group) (parts : List Requirement) (qs : List Placed) {rest : List Placed}
    (hqs : qs.map Placed.token = ts) (hrest : NotOpening rest) :
    part stack parts (qs ++ rest) = next stack (ps.reverse ++ parts) rest :=
  match h with
  | .one hp => hp.read stack parts qs hqs hrest
  | @Parts.more _ _ _ p _ hp hps => by
    obtain ⟨us, xs, rfl, hus, hxs⟩ := List.map_eq_append_iff.1 hqs
    obtain ⟨⟨_, n⟩, vs, rfl, rfl, hvs⟩ := List.map_eq_cons_iff.1 hxs
    rw [List.append_assoc, List.cons_append, hp.read stack parts us hus (notOpening_comma n _),
      next, hps.read stack (p :: parts) vs hvs hrest, List.reverse_cons, List.append_assoc]
    rfl

/-- So is a whole list. -/
theorem Listing.read {ts : List Token} {ps : List Requirement} (h : Listing Named ts ps)
    (stack : List Group) (parts : List Requirement) (qs : List Placed) {rest : List Placed}
    (hqs : qs.map Placed.token = ts) (hrest : EndsList stack rest) :
    part stack parts (qs ++ rest) = next stack (ps.reverse ++ parts) rest :=
  match h with
  | .empty => by
    obtain rfl := List.map_eq_nil_iff.1 hqs
    exact part_eq_next hrest parts
  | .plain hps => hps.read stack parts qs hqs hrest.notOpening
  | .trailing hps => by
    obtain ⟨us, vs, rfl, hus, hvs⟩ := List.map_eq_append_iff.1 hqs
    obtain ⟨⟨_, n⟩, xs, rfl, rfl, hxs⟩ := List.map_eq_cons_iff.1 hvs
    obtain rfl := List.map_eq_nil_iff.1 hxs
    rw [List.append_assoc, List.cons_append, List.nil_append,
      hps.read stack parts us hus (notOpening_comma n rest), next]
    exact part_eq_next hrest _

end

/-! ## What is read is in the grammar -/

/-- What may stand behind a part of a list up to the end of the list: nothing, or a comma and a
list. -/
inductive Behind (G : GroupRule) : List Token → List Requirement → Prop where
  | nothing : Behind G [] []
  | comma {ts : List Token} {ps : List Requirement} : Listing G ts ps → Behind G (.comma :: ts) ps

/-- A part and what stands behind it. -/
theorem Behind.listing {ts us : List Token} {p : Requirement} {ps : List Requirement}
    (hus : Behind G us ps) (hp : Part G ts p) : Listing G (ts ++ us) (p :: ps) := by
  cases hus with
  | nothing =>
    rw [List.append_nil]
    exact .plain (.one hp)
  | comma h => exact h.cons hp

/-- Some lexemes in front are a phrase, a list ends behind them, and there `next` succeeds with the
parts of the phrase read. -/
def ReadsFirst (Phrase : List Token → List Requirement → Prop) (stack : List Group)
    (parts : List Requirement) (qs : List Placed) (r : Requirement) : Prop :=
  ∃ us rest ps, qs = us ++ rest ∧ Phrase (us.map Placed.token) ps ∧ EndsList stack rest ∧
    next stack (ps.reverse ++ parts) rest = .ok r

/-- A group that is read with what stands behind it. -/
theorem readsFirst_group {w : List Char} {n m : Nat} {stack : List Group}
    {parts : List Requirement} {qs : List Placed} {r : Requirement}
    (hlist : ReadsFirst (Listing Named) (⟨w, n, parts⟩ :: stack) [] qs r)
    (hbehind : ∀ p us k rest, qs = us ++ ⟨.rparen, k⟩ :: rest →
      next stack (p :: parts) rest = .ok r → ReadsFirst (Behind Named) stack (p :: parts) rest r) :
    ReadsFirst (Listing Named) stack parts (⟨.word w, n⟩ :: ⟨.lparen, m⟩ :: qs) r := by
  obtain ⟨us, rest, ps, hqs, hus, hend, hnext⟩ := hlist
  cases rest with
  | nil => rw [next] at hnext; cases hnext
  | cons q rest =>
    obtain ⟨t, k⟩ := q
    obtain ⟨rfl, -⟩ := hend
    rw [next] at hnext
    split at hnext
    · rename_i p hclose
      obtain ⟨vs, rest', ps', rfl, hvs, hend', hnext'⟩ := hbehind p us k rest hqs hnext
      have hpart : Part Named (.word w :: .lparen :: (us.map Placed.token ++ [.rparen])) p := by
        refine .group hus ?_
        have hnamed := close_eq_ok_iff.1 hclose
        rwa [List.append_nil, List.reverse_reverse] at hnamed
      refine ⟨⟨.word w, n⟩ :: ⟨.lparen, m⟩ :: (us ++ ⟨.rparen, k⟩ :: vs), rest', p :: ps', ?_, ?_,
        hend', ?_⟩
      · rw [hqs]; simp
      · have hlisting := hvs.listing hpart
        simpa using hlisting
      · rwa [List.reverse_cons, List.append_assoc]
    · cases hnext

mutual

/-- Where reading succeeds it reads a list first. -/
theorem readsFirst_of_part {stack : List Group} {parts : List Requirement} {qs : List Placed}
    {r : Requirement} (h : part stack parts qs = .ok r) :
    ReadsFirst (Listing Named) stack parts qs r :=
  match qs with
  | [] => by
    have hend : EndsList stack [] := trivial
    exact ⟨[], [], [], rfl, .empty, hend, part_eq_next hend parts ▸ h⟩
  | ⟨.word w, n⟩ :: ts => by
    rcases notOpening_or ts with hts | ⟨m, vs, rfl⟩
    · rw [part_word hts] at h
      obtain ⟨us, rest, ps, rfl, hus, hend, hnext⟩ := readsFirst_of_next h
      refine ⟨⟨.word w, n⟩ :: us, rest, .scope ⟨String.ofList w⟩ :: ps, rfl,
        hus.listing (.scope w), hend, ?_⟩
      rwa [List.reverse_cons, List.append_assoc]
    · rw [part] at h
      refine readsFirst_group (readsFirst_of_part h) fun p us k rest hvs hnext => ?_
      -- what is left behind the group is shorter than what stands behind its parenthesis
      have hlt : rest.length < vs.length := by
        rw [hvs, List.length_append, List.length_cons]
        omega
      exact readsFirst_of_next hnext
  | ⟨.rparen, n⟩ :: ts => by
    cases stack with
    | nil => rw [part] at h; cases h
    | cons g stack =>
      have hend : EndsList (g :: stack) (⟨.rparen, n⟩ :: ts) := ⟨rfl, List.cons_ne_nil _ _⟩
      exact ⟨[], _, [], rfl, .empty, hend, part_eq_next hend parts ▸ h⟩
  | ⟨.lparen, n⟩ :: ts => by
    simp [part] at h
  | ⟨.comma, n⟩ :: ts => by
    simp [part] at h
  termination_by qs.length

theorem readsFirst_of_next {stack : List Group} {parts : List Requirement} {qs : List Placed}
    {r : Requirement} (h : next stack parts qs = .ok r) :
    ReadsFirst (Behind Named) stack parts qs r :=
  match qs with
  | [] => ⟨[], [], [], rfl, .nothing, trivial, h⟩
  | ⟨.comma, n⟩ :: ts => by
    rw [next] at h
    obtain ⟨us, rest, ps, rfl, hus, hend, hnext⟩ := readsFirst_of_part h
    exact ⟨⟨.comma, n⟩ :: us, rest, ps, rfl, .comma hus, hend, hnext⟩
  | ⟨.rparen, n⟩ :: ts => by
    cases stack with
    | nil => rw [next] at h; cases h
    | cons g stack => exact ⟨[], _, [], rfl, .nothing, ⟨rfl, List.cons_ne_nil _ _⟩, h⟩
  | ⟨.lparen, n⟩ :: ts => by
    simp [next] at h
  | ⟨.word w, n⟩ :: ts => by
    simp [next] at h
  termination_by qs.length

end


/-- The lexemes that are read are those of a list, and they are read as its parts together. -/
theorem part_eq_ok_iff {qs : List Placed} {r : Requirement} :
    part [] [] qs = .ok r ↔
      ∃ ps, Listing Named (qs.map Placed.token) ps ∧ conjunction ps = r := by
  constructor
  · intro h
    obtain ⟨us, rest, ps, rfl, hus, hend, hnext⟩ := readsFirst_of_part h
    cases rest with
    | nil =>
      rw [next] at hnext
      cases hnext
      refine ⟨ps, by rwa [List.append_nil], ?_⟩
      rw [List.append_nil, List.reverse_reverse]
    | cons q rest => exact absurd rfl hend.2
  · rintro ⟨ps, hps, rfl⟩
    have hend : EndsList [] [] := trivial
    have hread := hps.read [] [] qs rfl hend
    rw [List.append_nil, List.append_nil] at hread
    rw [hread, next, List.reverse_reverse]
    rfl

end Bearer.Requirement
