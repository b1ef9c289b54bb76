import Bearer.Proofs.Requirement.Grammar
import Bearer.Requirement.Expression

/-!
# Reading requirements back

A text derives a list of parts when it spells lexemes that are the list. What `parse` makes of a
text is settled by that alone: the parts together if it derives any, and a syntax error on the text
if it derives none. The parts together are what the builders make of the same parts, and the lexemes
of a requirement, with or without a comma behind the last part of each list and with any blanks
between them, are read back as it.

* `parse_eq_ok_iff`, `parse_eq_error_iff`: which texts are read, and as what.
* `eval_conjunction_asBuilt`: the builders build what is read.
* `parse_spaced`: a requirement of words is read back.
-/
namespace Bearer.Requirement

/-- The text spells a list of the parts `ps`. -/
def Derives (text : String) (ps : List Requirement) : Prop :=
  ∃ ts, Spells text.toList ts ∧ Listing Named ts ps

theorem parse_eq_ok_iff {text : String} {r : Requirement} :
    parse text = .ok r ↔ ∃ ps, Derives text ps ∧ conjunction ps = r := by
  constructor
  · intro h
    unfold parse at h
    split at h
    · rename_i r' hr
      cases h
      cases hscan : scan 0 text.toList with
      | error e => rw [hscan] at hr; cases hr
      | ok qs =>
        rw [hscan] at hr
        obtain ⟨ps, hps, rfl⟩ := part_eq_ok_iff.1 hr
        exact ⟨ps, ⟨_, spells_of_scan hscan, hps⟩, rfl⟩
    · cases h
  · rintro ⟨ps, ⟨ts, hts, hps⟩, rfl⟩
    obtain ⟨qs, hscan, rfl⟩ := exists_scan_of_spells hts 0
    have hpart : part [] [] qs = .ok (conjunction ps) := part_eq_ok_iff.2 ⟨ps, hps, rfl⟩
    rw [parse, hscan, Except.bind, hpart]

/-- The only way to fail is a syntax error on the text. -/
theorem parse_eq_error_iff {text : String} :
    (∃ fault, parse text = .error ⟨text, fault⟩) ↔ ¬∃ ps, Derives text ps := by
  constructor
  · rintro ⟨fault, hfault⟩ ⟨ps, hps⟩
    rw [parse_eq_ok_iff.2 ⟨ps, hps, rfl⟩] at hfault
    cases hfault
  · intro h
    unfold parse
    split
    · rename_i r hr
      have hok : parse text = .ok r := by rw [parse, hr]
      obtain ⟨ps, hps, -⟩ := parse_eq_ok_iff.1 hok
      exact absurd ⟨ps, hps⟩ h
    · rename_i fault _
      exact ⟨fault, rfl⟩

/-! ## What the builders build -/

mutual

/-- A requirement put together by the builders, its scopes from their texts. -/
def asBuilt : Requirement → Expression
  | .scope s => .scope (.operand (.data (.str s.text)))
  | .all ps => .all (asBuiltIn ps)
  | .any ps => .any (asBuiltIn ps)
  | .not p => .not [asBuilt p]

/-- Several requirements put together by the builders. -/
def asBuiltIn : List Requirement → List Expression
  | [] => []
  | p :: ps => asBuilt p :: asBuiltIn ps

end

theorem toParts_requirement (ps : List Requirement) :
    Operand.toParts (ps.map Operand.requirement) = .ok ps := by
  induction ps with
  | nil => rfl
  | cons p ps ih => rw [List.map_cons, Operand.toParts, ih]; rfl

mutual

theorem eval_asBuilt : ∀ p : Requirement, (asBuilt p).eval = .ok (.requirement p)
  | .scope s => by rw [asBuilt, Expression.eval, Expression.eval]; rfl
  | .all ps => by
    rw [asBuilt, Expression.eval, evalAll_asBuiltIn ps]
    show (do return Operand.requirement (← Operand.allOf (ps.map .requirement))) = _
    rw [Operand.allOf, toParts_requirement]
    rfl
  | .any ps => by
    rw [asBuilt, Expression.eval, evalAll_asBuiltIn ps]
    show (do return Operand.requirement (← Operand.anyOf (ps.map .requirement))) = _
    rw [Operand.anyOf, toParts_requirement]
    rfl
  | .not p => by
    rw [asBuilt, Expression.eval, Expression.evalAll, eval_asBuilt p, Expression.evalAll]
    rfl

theorem evalAll_asBuiltIn :
    ∀ ps : List Requirement, Expression.evalAll (asBuiltIn ps) = .ok (ps.map .requirement)
  | [] => by rw [asBuiltIn, Expression.evalAll]; rfl
  | p :: ps => by
    rw [asBuiltIn, Expression.evalAll, eval_asBuilt p, evalAll_asBuiltIn ps]
    rfl

end

theorem conjunctionOf_requirement (ps : List Requirement) :
    Operand.conjunctionOf (ps.map .requirement) = .ok (conjunction ps) := by
  match ps with
  | [] => rfl
  | [p] => rfl
  | p :: q :: ps =>
    show (Operand.toParts ((p :: q :: ps).map .requirement)).map Requirement.all = _
    rw [toParts_requirement]
    rfl

/-- The parts together are what the builders make of the same parts. -/
theorem eval_conjunction_asBuilt (ps : List Requirement) :
    (Expression.conjunction (asBuiltIn ps)).eval = .ok (.requirement (conjunction ps)) := by
  rw [Expression.eval, evalAll_asBuiltIn]
  show (do return Operand.requirement (← Operand.conjunctionOf (ps.map .requirement))) = _
  rw [conjunctionOf_requirement]
  rfl

/-! ## The lexemes of a requirement -/

variable (comma : List Nat → Bool)

/-- The comma behind the last part of the list at `path`, or none. -/
def lastComma (path : List Nat) : List Token :=
  if comma path then [.comma] else []

mutual

/-- The lexemes of a requirement: a scope as a word, a group as its name before its parts between
parentheses. The requirement stands at `path`, its number in the list around it first, and `comma`
says of each list that has parts whether a comma is behind the last one. -/
def lexemes (path : List Nat) : Requirement → List Token
  | .scope s => [.word s.text.toList]
  | .all ps => .word "all".toList :: .lparen :: (lexemesOf path 0 ps ++ [.rparen])
  | .any ps => .word "any".toList :: .lparen :: (lexemesOf path 0 ps ++ [.rparen])
  | .not p =>
    .word "not".toList :: .lparen :: ((lexemes (0 :: path) p ++ lastComma comma path) ++ [.rparen])

/-- The lexemes of the list that stands at `path`, from its part with the number `i` on. -/
def lexemesOf (path : List Nat) (i : Nat) : List Requirement → List Token
  | [] => []
  | [p] => lexemes (i :: path) p ++ lastComma comma path
  | p :: q :: ps => lexemes (i :: path) p ++ .comma :: lexemesOf path (i + 1) (q :: ps)

end

theorem listing_lastComma {ts : List Token} {p : Requirement} (h : Part Named ts p)
    (path : List Nat) : Listing Named (ts ++ lastComma comma path) [p] := by
  unfold lastComma
  split
  · exact .trailing (.one h)
  · rw [List.append_nil]
    exact .plain (.one h)

mutual

theorem part_lexemes (path : List Nat) : ∀ p : Requirement, Part Named (lexemes comma path p) p
  | .scope s => by
    have hs := Part.scope (G := Named) s.text.toList
    rw [String.ofList_toList] at hs
    rw [lexemes]
    exact hs
  | .all ps => by
    rw [lexemes]
    exact .group (listing_lexemesOf path 0 ps) (.all ps)
  | .any ps => by
    rw [lexemes]
    exact .group (listing_lexemesOf path 0 ps) (.any ps)
  | .not p => by
    rw [lexemes]
    exact .group (listing_lastComma comma (part_lexemes _ p) path) (.not p)

theorem listing_lexemesOf (path : List Nat) (i : Nat) :
    ∀ ps : List Requirement, Listing Named (lexemesOf comma path i ps) ps
  | [] => by
    rw [lexemesOf]
    exact .empty
  | [p] => by
    rw [lexemesOf]
    exact listing_lastComma comma (part_lexemes _ p) path
  | p :: q :: ps => by
    rw [lexemesOf]
    exact (listing_lexemesOf path (i + 1) (q :: ps)).cons (part_lexemes _ p)

end

/-- A requirement is written in words when every scope that it names is one. -/
def IsWorded (p : Requirement) : Prop :=
  ∀ s ∈ leaves p, IsWord s.text.toList

instance (p : Requirement) : Decidable (IsWorded p) :=
  decidable_of_iff ((leaves p).all (fun s => decide (IsWord s.text.toList)) = true)
    (by simp [IsWorded])

/-- Lexemes that may stand behind a word. -/
def Follow (ts : List Token) : Prop :=
  AreApart ts ∧ ∀ t ∈ ts.head?, t.isWord = false

theorem follow_nil : Follow [] :=
  ⟨trivial, fun t ht => absurd ht (by simp)⟩

theorem follow_cons {t : Token} (ht : t.isWord = false) {ts : List Token} (h : AreApart ts) :
    Follow (t :: ts) := by
  refine ⟨?_, fun u hu => ?_⟩
  · cases t with
    | word w => cases ht
    | lparen | rparen | comma => exact h
  · cases hu
    exact ht

theorem follow_lastComma {ts : List Token} (h : Follow ts) (path : List Nat) :
    Follow (lastComma comma path ++ ts) := by
  unfold lastComma
  split
  · exact follow_cons rfl h.1
  · exact h

theorem Named.isWord {w : List Char} {ps : List Requirement} {r : Requirement}
    (h : Named w ps r) : IsWord w := by
  cases h <;> decide +kernel

theorem areApart_group {w : List Char} {ps : List Requirement} {r : Requirement}
    (h : Named w ps r) {ts us : List Token} (hts : AreApart (ts ++ .rparen :: us)) :
    AreApart (.word w :: .lparen :: (ts ++ [.rparen]) ++ us) := by
  rw [List.cons_append, List.cons_append, List.append_assoc]
  refine ⟨h.isWord, fun t ht => ?_, hts⟩
  cases ht
  rfl

mutual

theorem areApart_lexemes (path : List Nat) {us : List Token} (hus : Follow us) :
    ∀ p : Requirement, IsWorded p → AreApart (lexemes comma path p ++ us)
  | .scope s, hp => by
    rw [lexemes]
    exact ⟨hp s (List.mem_singleton.2 rfl), hus.2, hus.1⟩
  | .all ps, hp => by
    rw [lexemes]
    exact areApart_group (.all ps) (areApart_lexemesOf path 0 (follow_cons rfl hus.1) ps hp)
  | .any ps, hp => by
    rw [lexemes]
    exact areApart_group (.any ps) (areApart_lexemesOf path 0 (follow_cons rfl hus.1) ps hp)
  | .not p, hp => by
    rw [lexemes]
    refine areApart_group (.not p) ?_
    rw [List.append_assoc]
    exact areApart_lexemes _ (follow_lastComma comma (follow_cons rfl hus.1) path) p hp

theorem areApart_lexemesOf (path : List Nat) (i : Nat) {us : List Token} (hus : Follow us) :
    ∀ ps : List Requirement, (∀ s ∈ leavesIn ps, IsWord s.text.toList) →
      AreApart (lexemesOf comma path i ps ++ us)
  | [], _ => by
    rw [lexemesOf]
    exact hus.1
  | [p], hps => by
    rw [lexemesOf, List.append_assoc]
    refine areApart_lexemes _ (follow_lastComma comma hus path) p fun s hs => hps s ?_
    rw [leavesIn]
    exact List.mem_append_left _ hs
  | p :: q :: ps, hps => by
    rw [leavesIn] at hps
    have hrest := areApart_lexemesOf path (i + 1) hus (q :: ps) fun s hs =>
      hps s (List.mem_append_right _ hs)
    rw [lexemesOf, List.append_assoc, List.cons_append]
    exact areApart_lexemes _ (follow_cons rfl hrest) p fun s hs => hps s (List.mem_append_left _ hs)

end

/-- A requirement of words is read back from its lexemes, whatever blanks stand between them. -/
theorem parse_spaced {r : Requirement} (hr : IsWorded r) {gap : Nat → List Char}
    (hgap : ∀ i, ∀ c ∈ gap i, Text.isBlank c = true) :
    parse (String.ofList (spaced gap 0 (lexemesOf comma [] 0 [r]))) = .ok r := by
  have hapart : AreApart (lexemesOf comma [] 0 [r] ++ []) :=
    areApart_lexemesOf comma [] 0 follow_nil [r] fun s hs => hr s (by simpa [leavesIn] using hs)
  rw [List.append_nil] at hapart
  refine parse_eq_ok_iff.2 ⟨[r], ⟨_, ?_, listing_lexemesOf comma [] 0 [r]⟩, rfl⟩
  rw [String.toList_ofList]
  exact spells_spaced hgap hapart 0

/-- What is read of a text: the parts together if it spells a list of parts, a syntax error on the
text if it spells none. The builders make the same of these parts, and a requirement of words is
read back from its lexemes, with or without last commas and with any blanks between them. -/
theorem parse_grammar (text : String) :
    (∀ r, parse text = .ok r ↔ ∃ ps, Derives text ps ∧ conjunction ps = r) ∧
    ((¬∃ ps, Derives text ps) ↔ ∃ fault, parse text = .error ⟨text, fault⟩) ∧
    (∀ ps, (Expression.conjunction (asBuiltIn ps)).eval = .ok (.requirement (conjunction ps))) ∧
    ∀ r comma gap, IsWorded r → (∀ i, ∀ c ∈ gap i, Text.isBlank c = true) →
      text = String.ofList (spaced gap 0 (lexemesOf comma [] 0 [r])) → parse text = .ok r := by
  refine ⟨fun r => parse_eq_ok_iff, parse_eq_error_iff.symm, eval_conjunction_asBuilt, ?_⟩
  rintro r comma gap hr hgap rfl
  exact parse_spaced comma hr hgap

theorem parse_grammar_nested :
    IsWorded (.any [.scope ⟨"chat:edit"⟩, .not (.scope ⟨"not"⟩), .all []]) ∧
      parse " any ( chat:edit , not ( not , ) , all ( ) , ) " =
        .ok (.any [.scope ⟨"chat:edit"⟩, .not (.scope ⟨"not"⟩), .all []]) := by
  have hr : IsWorded (.any [.scope ⟨"chat:edit"⟩, .not (.scope ⟨"not"⟩), .all []]) := by
    decide +kernel
  refine ⟨hr, (parse_grammar _).2.2.2 _ (fun path => path ≠ []) (fun _ => [' ']) hr ?_ ?_⟩
  · intro i c hc
    rw [List.mem_singleton.1 hc]
    decide
  · decide

end Bearer.Requirement
