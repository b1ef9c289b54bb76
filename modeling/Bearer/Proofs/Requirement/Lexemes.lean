import Bearer.Proofs.Requirement.Spelling
import Mathlib.Data.List.DropRight
import Mathlib.Data.List.Infix

/-!
# Lexemes and where they stand

Cutting a text into lexemes loses nothing of it. The lexemes stand in the text at their positions,
one behind the other; what stands outside of them is blank, and no word could be longer. A text is
cut unless it holds a character that belongs to no lexeme and separates none, and then the first
such character is named with its position. `onLexemes` is the induction over a text from one lexeme
to the next.

A text can also be cut by positions in the whole of it: skip blanks from a position on, match a
lexeme there, go on behind it, and stop where only blanks are left. This ends, looks at no position
outside of the text, and comes to the same.

* `scan_cases`: which texts are cut, and what is said of the others.
* `cuts_of_scan`, `Cuts.isCutInto`: what a text is cut into.
* `scanAt_eq_scan`: cutting by positions.
* `scan_loses_nothing`: all of it, for any text.
-/
namespace Bearer.Requirement

/-! ## From lexeme to lexeme -/

/-- A character that separates lexemes or belongs to one. -/
def IsAdmitted (c : Char) : Prop :=
  Text.isBlank c = true ∨ isWordChar c = true ∨ c = '(' ∨ c = ')' ∨ c = ','

/-- A lexeme as texts have it. -/
def Token.IsLexeme (t : Token) : Prop :=
  ∀ w, t = .word w → IsWord w

/-- What stands behind a lexeme does not make a word of it longer. -/
def Token.EndsBefore (t : Token) (s : List Char) : Prop :=
  t.isWord = true → ∀ c ∈ s.head?, isWordChar c = false

variable {c : Char} {t : Token} {s before text : List Char} {qs : List Placed} {n : Nat}

theorem isAdmitted_of_isBlank (h : Text.isBlank c = true) : IsAdmitted c := .inl h

theorem isAdmitted_of_mem_lexeme (ht : t.IsLexeme) (h : c ∈ t.lexeme) : IsAdmitted c := by
  cases t with
  | word w => exact .inr (.inl ((ht w rfl).2 c h))
  | lparen => exact .inr (.inr (.inl (List.mem_singleton.1 h)))
  | rparen => exact .inr (.inr (.inr (.inl (List.mem_singleton.1 h))))
  | comma => exact .inr (.inr (.inr (.inr (List.mem_singleton.1 h))))

theorem Token.IsLexeme.ne_nil (ht : t.IsLexeme) : t.lexeme ≠ [] := by
  cases t with
  | word w => exact (ht w rfl).1
  | lparen | rparen | comma => exact List.cons_ne_nil _ _

theorem Token.IsLexeme.length_pos (ht : t.IsLexeme) : 0 < t.lexeme.length :=
  List.length_pos_iff.2 ht.ne_nil

theorem Token.IsLexeme.not_blank (ht : t.IsLexeme) (h : c ∈ t.lexeme) : Text.isBlank c = false := by
  cases t with
  | word w => exact isBlank_eq_false_of_isWordChar ((ht w rfl).2 c h)
  | lparen | rparen | comma => exact List.mem_singleton.1 h ▸ by decide

/-- A lexeme that is no word is a single character that is in no word. -/
theorem Token.exists_mark (h : t.isWord = false) :
    ∃ c, t.lexeme = [c] ∧ Token.mark? c = some t ∧ Text.isBlank c = false ∧
      isWordChar c = false := by
  cases t with
  | word w => cases h
  | lparen => exact ⟨'(', rfl, rfl, by decide, by decide⟩
  | rparen => exact ⟨')', rfl, rfl, by decide, by decide⟩
  | comma => exact ⟨',', rfl, rfl, by decide, by decide⟩

theorem Token.eq_word_of_isWord (h : t.isWord = true) : ∃ w, t = .word w := by
  cases t with
  | word w => exact ⟨w, rfl⟩
  | lparen | rparen | comma => cases h

theorem isLexeme_of_isWord_eq_false (h : t.isWord = false) : t.IsLexeme := by
  rintro w rfl
  cases h

theorem isWord_eq_false_of_mark? (h : Token.mark? c = some t) : t.isWord = false := by
  unfold Token.mark? at h
  split_ifs at h <;> cases h <;> rfl

/-- Induction over a text from lexeme to lexeme, up to a character that belongs nowhere. -/
@[elab_as_elim]
theorem onLexemes {motive : List Char → Prop} (nil : motive [])
    (blank : ∀ c s, Text.isBlank c = true → motive s → motive (c :: s))
    (lexeme : ∀ (t : Token) (s : List Char), t.IsLexeme → t.EndsBefore s → motive s →
      motive (t.lexeme ++ s))
    (stop : ∀ c s, ¬IsAdmitted c → motive (c :: s)) (s : List Char) : motive s := by
  induction hn : s.length using Nat.strongRecOn generalizing s with
  | ind n ih =>
    subst hn
    cases s with
    | nil => exact nil
    | cons c s =>
      by_cases hblank : Text.isBlank c = true
      · exact blank c s hblank (ih s.length (by simp) s rfl)
      by_cases hword : isWordChar c = true
      · obtain ⟨hw, hr⟩ := isWord_cut hword s
        have hshorter : (s.dropWhile isWordChar).length < (c :: s).length :=
          Nat.lt_succ_of_le (List.dropWhile_sublist isWordChar).length_le
        have h := lexeme (.word (c :: s.takeWhile isWordChar)) (s.dropWhile isWordChar)
          (fun w hw' => by cases hw'; exact hw) (fun _ => hr) (ih _ hshorter _ rfl)
        rwa [Token.lexeme, List.cons_append, List.takeWhile_append_dropWhile] at h
      have hmark : ∀ t : Token, t.isWord = false → t.lexeme = [c] → motive (c :: s) := by
        intro t ht htc
        have h := lexeme t s (isLexeme_of_isWord_eq_false ht)
          (fun h => by rw [ht] at h; cases h) (ih s.length (by simp) s rfl)
        rwa [htc] at h
      by_cases hopen : c = '('
      · exact hmark .lparen rfl (by rw [hopen]; rfl)
      by_cases hclose : c = ')'
      · exact hmark .rparen rfl (by rw [hclose]; rfl)
      by_cases hcomma : c = ','
      · exact hmark .comma rfl (by rw [hcomma]; rfl)
      refine stop c s fun h => ?_
      rcases h with h | h | h | h | h <;> contradiction

/-! ## What `scan` does -/

theorem scan_lexeme (ht : t.IsLexeme) (hs : t.EndsBefore s) (n : Nat) :
    scan n (t.lexeme ++ s) = (scan (n + t.lexeme.length) s).map (⟨t, n⟩ :: ·) := by
  cases hword : t.isWord with
  | true =>
    obtain ⟨w, rfl⟩ := Token.eq_word_of_isWord hword
    exact scan_word (ht w rfl) (hs hword) n
  | false =>
    obtain ⟨c, hc, hmark, hblank, -⟩ := Token.exists_mark hword
    rw [hc]
    exact scan_mark hblank hmark n s

theorem scan_stop (h : ¬IsAdmitted c) (n : Nat) (s : List Char) :
    scan n (c :: s) = .error (.character c n) := by
  simp only [IsAdmitted, not_or] at h
  obtain ⟨hblank, hword, hopen, hclose, hcomma⟩ := h
  rw [scan.eq_def]
  simp [hblank, hword, Token.mark?, hopen, hclose, hcomma]

/-- A text is cut if it holds no other characters than it may; of the others the first is named. -/
theorem scan_cases (n : Nat) (s : List Char) :
    ((∀ c ∈ s, IsAdmitted c) ∧ ∃ qs, scan n s = .ok qs) ∨
    ∃ before c after, s = before ++ c :: after ∧ (∀ d ∈ before, IsAdmitted d) ∧ ¬IsAdmitted c ∧
      scan n s = .error (.character c (n + before.length)) := by
  induction s using onLexemes generalizing n with
  | nil => exact .inl ⟨List.forall_mem_nil _, [], scan_nil n⟩
  | blank c s hc ih =>
    have hadmitted := isAdmitted_of_isBlank hc
    rw [scan_blank hc]
    rcases ih (n + 1) with ⟨hall, hscan⟩ | ⟨before, d, after, rfl, hall, hd, hscan⟩
    · exact .inl ⟨List.forall_mem_cons.2 ⟨hadmitted, hall⟩, hscan⟩
    · refine .inr ⟨c :: before, d, after, rfl, List.forall_mem_cons.2 ⟨hadmitted, hall⟩, hd, ?_⟩
      rw [hscan, List.length_cons, Nat.add_assoc, Nat.add_comm 1]
  | lexeme t s ht hs ih =>
    have hadmitted : ∀ c ∈ t.lexeme, IsAdmitted c := fun c hc => isAdmitted_of_mem_lexeme ht hc
    rw [scan_lexeme ht hs]
    rcases ih (n + t.lexeme.length) with
      ⟨hall, qs, hscan⟩ | ⟨before, d, after, rfl, hall, hd, hscan⟩
    · exact .inl ⟨List.forall_mem_append.2 ⟨hadmitted, hall⟩, _, by rw [hscan]; rfl⟩
    · refine .inr ⟨t.lexeme ++ before, d, after, (List.append_assoc ..).symm,
        List.forall_mem_append.2 ⟨hadmitted, hall⟩, hd, ?_⟩
      rw [hscan, List.length_append, Nat.add_assoc]
      rfl
  | stop c s hc => exact .inr ⟨[], c, s, rfl, List.forall_mem_nil _, hc, scan_stop hc n s⟩

/-! ## Where the lexemes stand -/

/-- `Cuts before s qs`: behind the text `before` the text `s` is cut into `qs`. -/
inductive Cuts : List Char → List Char → List Placed → Prop where
  | nil (before : List Char) : Cuts before [] []
  | blank {before s : List Char} {c : Char} {qs : List Placed} :
      Text.isBlank c = true → Cuts (before ++ [c]) s qs → Cuts before (c :: s) qs
  | lexeme {before s : List Char} {t : Token} {qs : List Placed} :
      t.IsLexeme → t.EndsBefore s →
      (t.isWord = true → ∀ c ∈ before.getLast?, isWordChar c = false) →
      Cuts (before ++ t.lexeme) s qs → Cuts before (t.lexeme ++ s) (⟨t, before.length⟩ :: qs)

/-- No word goes on from `before` to `s`. -/
def Parted (before s : List Char) : Prop :=
  ∀ c ∈ before.getLast?, ∀ d ∈ s.head?, isWordChar c = true → isWordChar d = false

theorem parted_nil (s : List Char) : Parted [] s := by
  intro c hc
  cases hc

theorem parted_concat (h : isWordChar c = false) (before s : List Char) :
    Parted (before ++ [c]) s := by
  intro d hd _ _ hword
  rw [List.getLast?_concat, Option.mem_some] at hd
  rw [← hd, h] at hword
  cases hword

theorem Token.EndsBefore.parted (hs : t.EndsBefore s) (before : List Char) :
    Parted (before ++ t.lexeme) s := by
  cases hword : t.isWord with
  | true => exact fun _ _ d hd _ => hs hword d hd
  | false =>
    obtain ⟨c, hc, -, -, hplain⟩ := Token.exists_mark hword
    rw [hc]
    exact parted_concat hplain before s

theorem cuts_of_scan (h : scan n s = .ok qs) (hn : before.length = n) (hp : Parted before s) :
    Cuts before s qs := by
  induction s using onLexemes generalizing n before qs with
  | nil =>
    rw [scan_nil] at h
    cases h
    exact .nil before
  | blank c s hc ih =>
    rw [scan_blank hc] at h
    refine .blank hc (ih h ?_ (parted_concat (isWordChar_eq_false_of_isBlank hc) before s))
    rw [List.length_append, hn, List.length_singleton]
  | lexeme t s ht hs ih =>
    rw [scan_lexeme ht hs] at h
    cases hrest : scan (n + t.lexeme.length) s with
    | error e =>
      rw [hrest] at h
      cases h
    | ok ts =>
      rw [hrest] at h
      cases h
      rw [← hn]
      refine .lexeme ht hs (fun hword c hc => ?_) (ih hrest ?_ (hs.parted before))
      · -- the word starts with a character that would make a word in front of it longer
        obtain ⟨w, rfl⟩ := Token.eq_word_of_isWord hword
        obtain ⟨d, w, rfl⟩ := List.exists_cons_of_ne_nil (ht w rfl).1
        have hd := (ht _ rfl).2 d (List.mem_cons_self ..)
        rw [← Bool.not_eq_true]
        intro hc'
        rw [hp c hc d rfl hc'] at hd
        cases hd
      · rw [List.length_append, hn]
  | stop c s hc =>
    rw [scan_stop hc] at h
    cases h

namespace Cuts

/-- The piece of a text at the position of a lexeme is the lexeme, and no word could be longer. -/
theorem stands (h : Cuts before s qs) {q : Placed} (hq : q ∈ qs) :
    ∃ left right, before ++ s = left ++ (q.token.lexeme ++ right) ∧ q.position = left.length ∧
      before.length ≤ left.length ∧ q.token.IsLexeme ∧ q.token.EndsBefore right ∧
      (q.token.isWord = true → ∀ c ∈ left.getLast?, isWordChar c = false) := by
  induction h with
  | nil => cases hq
  | @blank before s c qs hc _ ih =>
    obtain ⟨left, right, htext, hpos, hle, hrest⟩ := ih hq
    rw [List.append_assoc, List.singleton_append] at htext
    rw [List.length_append] at hle
    exact ⟨left, right, htext, hpos, by omega, hrest⟩
  | @lexeme before s t qs ht hs hleft _ ih =>
    rcases List.mem_cons.1 hq with rfl | hq
    · exact ⟨before, s, rfl, rfl, Nat.le_refl _, ht, hs, hleft⟩
    · obtain ⟨left, right, htext, hpos, hle, hrest⟩ := ih hq
      rw [List.append_assoc] at htext
      rw [List.length_append] at hle
      exact ⟨left, right, htext, hpos, by omega, hrest⟩

theorem le_position (h : Cuts before s qs) {q : Placed} (hq : q ∈ qs) :
    before.length ≤ q.position := by
  obtain ⟨left, right, -, hpos, hle, -⟩ := h.stands hq
  rw [hpos]
  exact hle

/-- Each lexeme ends before the next one starts. -/
theorem pairwise (h : Cuts before s qs) :
    qs.Pairwise fun p q => p.position + p.token.lexeme.length ≤ q.position := by
  induction h with
  | nil => exact .nil
  | blank _ _ ih => exact ih
  | @lexeme before s t qs _ _ _ hcuts ih =>
    refine .cons (fun q hq => ?_) ih
    have hle := hcuts.le_position hq
    rwa [List.length_append] at hle

/-- What belongs to no lexeme is blank. -/
theorem isBlank (h : Cuts before s qs) {i : Nat} (hi : before.length ≤ i) {c : Char}
    (hc : (before ++ s)[i]? = some c)
    (hout : ∀ q ∈ qs, ¬(q.position ≤ i ∧ i < q.position + q.token.lexeme.length)) :
    Text.isBlank c = true := by
  induction h with
  | nil before =>
    rw [List.getElem?_append_right hi, List.getElem?_nil] at hc
    cases hc
  | @blank before s d qs hd _ ih =>
    rcases Nat.eq_or_lt_of_le hi with rfl | hlt
    · rw [List.getElem?_append_right (Nat.le_refl _), Nat.sub_self] at hc
      cases hc
      exact hd
    · refine ih ?_ ?_ hout
      · rw [List.length_append]
        exact hlt
      · rwa [List.append_assoc]
  | @lexeme before s t qs _ _ _ _ ih =>
    obtain ⟨hfirst, hrest⟩ := List.forall_mem_cons.1 hout
    simp only [not_and, not_lt] at hfirst
    refine ih ?_ ?_ hrest
    · rw [List.length_append]
      exact hfirst hi
    · rwa [List.append_assoc]

/-- The lexemes one behind the other are the text without its blanks. -/
theorem flatMap_lexeme (h : Cuts before s qs) :
    qs.flatMap (·.token.lexeme) = s.filter (!Text.isBlank ·) := by
  induction h with
  | nil => rfl
  | blank hc _ ih => rw [List.filter_cons_of_neg (by simp [hc]), ih]
  | @lexeme before s t qs ht _ _ _ ih =>
    have hself : t.lexeme.filter (!Text.isBlank ·) = t.lexeme :=
      List.filter_eq_self.2 fun c hc => by simp [ht.not_blank hc]
    rw [List.flatMap_cons, ih, List.filter_append, hself]

end Cuts

/-- All that is true of the lexemes that a text is cut into. -/
structure IsCutInto (text : List Char) (qs : List Placed) : Prop where
  /-- The positions increase. -/
  increasing : qs.Pairwise fun p q => p.position < q.position
  /-- Each lexeme ends before the next one starts. -/
  apart : qs.Pairwise fun p q => p.position + p.token.lexeme.length ≤ q.position
  /-- Each is the piece of the text at its position. -/
  slice : ∀ q ∈ qs, (text.drop q.position).take q.token.lexeme.length = q.token.lexeme
  /-- What is in front of them, between them and behind them is blank. -/
  blank : ∀ i c, text[i]? = some c →
    (∀ q ∈ qs, ¬(q.position ≤ i ∧ i < q.position + q.token.lexeme.length)) →
      Text.isBlank c = true
  /-- A word is made of word characters, and none stands right in front of it or behind it. -/
  word : ∀ q ∈ qs, ∀ w, q.token = .word w → IsWord w ∧
    (∀ i c, i + 1 = q.position → text[i]? = some c → isWordChar c = false) ∧
    ∀ c, text[q.position + w.length]? = some c → isWordChar c = false
  /-- One behind the other they are the text without its blanks. -/
  joined : qs.flatMap (·.token.lexeme) = text.filter (!Text.isBlank ·)

theorem Cuts.isCutInto (h : Cuts [] text qs) : IsCutInto text qs where
  increasing := by
    refine h.pairwise.imp_of_mem fun {p q} hp _ hle => ?_
    obtain ⟨_, _, -, -, -, ht, -⟩ := h.stands hp
    have hpos := ht.length_pos
    omega
  apart := h.pairwise
  slice q hq := by
    obtain ⟨left, right, htext, hpos, -⟩ := h.stands hq
    rw [List.nil_append] at htext
    rw [htext, hpos, List.drop_left, List.take_left]
  blank i c hc hout := h.isBlank (Nat.zero_le i) hc hout
  word q hq w hw := by
    obtain ⟨left, right, htext, hpos, -, ht, hs, hleft⟩ := h.stands hq
    rw [List.nil_append, hw] at htext
    rw [hw] at ht hs hleft
    refine ⟨ht w rfl, fun i c hi hc => hleft rfl c ?_, fun c hc => hs rfl c ?_⟩
    · rw [htext, List.getElem?_append_left (by omega)] at hc
      rw [List.getLast?_eq_getElem?, ← hpos, ← hi, Nat.add_sub_cancel]
      exact hc
    · rw [htext, hpos, List.getElem?_append_right (by omega), Nat.add_sub_cancel_left] at hc
      rw [Token.lexeme, List.getElem?_append_right (Nat.le_refl _), Nat.sub_self] at hc
      rwa [Option.mem_def, List.head?_eq_getElem?]
  joined := h.flatMap_lexeme

theorem isCutInto_of_scan (h : scan 0 text = .ok qs) : IsCutInto text qs :=
  (cuts_of_scan h rfl (parted_nil text)).isCutInto

/-! ## Cutting by positions -/

section Positions

variable {position : Nat} {q : Placed}

/-- The position behind the blanks that start at a position. -/
def skipBlanks (text : List Char) (position : Nat) : Nat :=
  position + ((text.drop position).length - (Text.trimLeft (text.drop position)).length)

/-- The lexeme that stands behind the blanks from a position on. -/
def lexemeFrom? (text : List Char) (position : Nat) : Option Placed :=
  match text.drop (skipBlanks text position) with
  | [] => none
  | c :: s =>
    match Token.mark? c with
    | some t => some ⟨t, skipBlanks text position⟩
    | none =>
      if isWordChar c then
        some ⟨.word (c :: s.takeWhile isWordChar), skipBlanks text position⟩
      else none

theorem drop_skipBlanks (text : List Char) (position : Nat) :
    text.drop (skipBlanks text position) = Text.trimLeft (text.drop position) := by
  have hsuffix : Text.trimLeft (text.drop position) <:+ text.drop position :=
    List.dropWhile_suffix _
  rw [skipBlanks, ← List.drop_drop]
  exact (List.suffix_iff_eq_drop.1 hsuffix).symm

theorem scan_trimLeft (n : Nat) (s : List Char) :
    scan n s = scan (n + (s.length - (Text.trimLeft s).length)) (Text.trimLeft s) := by
  induction s generalizing n with
  | nil => rfl
  | cons c s ih =>
    by_cases hc : Text.isBlank c = true
    · have hle := Text.length_trimLeft_le s
      rw [scan_blank hc, ih, Text.trimLeft_cons_of_blank s hc, List.length_cons]
      congr 1
      omega
    · rw [Text.trimLeft_cons_of_not_blank s (by simpa using hc), Nat.sub_self, Nat.add_zero]

/-- Blanks in front are skipped. -/
theorem scan_skipBlanks (text : List Char) (position : Nat) :
    scan position (text.drop position) =
      scan (skipBlanks text position) (text.drop (skipBlanks text position)) := by
  rw [drop_skipBlanks]
  exact scan_trimLeft position (text.drop position)

/-- Nothing but blanks stands from a position on if the text without the blanks at its end stops
before it. -/
theorem trimLeft_drop_eq_nil_iff :
    Text.trimLeft (text.drop position) = [] ↔ (Text.trimRight text).length ≤ position := by
  rw [Text.trimLeft, List.dropWhile_eq_nil_iff]
  constructor
  · intro hblank
    by_contra hlt
    rw [Nat.not_le] at hlt
    have hne : Text.trimRight text ≠ [] := List.ne_nil_of_length_pos (by omega)
    have hdrop : (Text.trimRight text).drop position ≠ [] := by
      rw [ne_eq, List.drop_eq_nil_iff]
      omega
    -- the last character that is kept is not blank, and stands behind the position
    have hmem := List.getLast_mem hdrop
    rw [List.getLast_drop] at hmem
    have hkept : List.IsPrefix (Text.trimRight text) text :=
      List.rdropWhile_prefix Text.isBlank text
    exact List.rdropWhile_last_not Text.isBlank text hne
      (hblank _ ((List.IsPrefix.drop hkept position).subset hmem))
  · intro hle c hc
    have hsplit : Text.trimRight text ++ text.rtakeWhile Text.isBlank = text :=
      List.rdropWhile_append_rtakeWhile
    rw [← hsplit, List.drop_append, List.drop_eq_nil_of_le hle, List.nil_append] at hc
    exact List.mem_rtakeWhile_imp (List.mem_of_mem_drop hc)

/-- Where not only blanks are left, a character stands behind them. -/
theorem exists_drop_skipBlanks (h : position < (Text.trimRight text).length) :
    ∃ c s, text.drop (skipBlanks text position) = c :: s ∧ Text.isBlank c = false := by
  have hne : Text.trimLeft (text.drop position) ≠ [] := by
    rw [ne_eq, trimLeft_drop_eq_nil_iff]
    omega
  obtain ⟨c, s, hcs⟩ := List.exists_cons_of_ne_nil hne
  refine ⟨c, s, by rw [drop_skipBlanks, hcs], ?_⟩
  have hhead := List.head?_dropWhile_not Text.isBlank (text.drop position)
  rw [← Text.trimLeft, hcs] at hhead
  exact hhead

theorem skipBlanks_lt (h : position < (Text.trimRight text).length) :
    skipBlanks text position < text.length := by
  obtain ⟨c, s, hdrop, -⟩ := exists_drop_skipBlanks h
  rw [← Nat.not_le, ← List.drop_eq_nil_iff, hdrop]
  exact List.cons_ne_nil c s

/-- What is matched is a lexeme behind the blanks, as long as it can be. -/
theorem lexemeFrom?_some (h : lexemeFrom? text position = some q) :
    q.position = skipBlanks text position ∧ q.token.IsLexeme ∧
      ∃ s, text.drop q.position = q.token.lexeme ++ s ∧ q.token.EndsBefore s := by
  unfold lexemeFrom? at h
  split at h
  · cases h
  · rename_i c s hdrop
    split at h
    · rename_i t ht
      cases h
      have hword := isWord_eq_false_of_mark? ht
      refine ⟨rfl, isLexeme_of_isWord_eq_false hword, s, ?_, fun h => ?_⟩
      · rw [hdrop, Token.lexeme_mark? ht]
        rfl
      · rw [hword] at h
        cases h
    · split at h
      · rename_i hc
        cases h
        obtain ⟨hw, hs⟩ := isWord_cut hc s
        refine ⟨rfl, fun w hw' => by cases hw'; exact hw, s.dropWhile isWordChar, ?_, fun _ => hs⟩
        rw [hdrop, Token.lexeme, List.cons_append, List.takeWhile_append_dropWhile]
      · cases h

/-- Where nothing is matched, a character stands that belongs nowhere. -/
theorem lexemeFrom?_none (h : lexemeFrom? text position = none)
    (hlt : position < (Text.trimRight text).length) :
    ¬IsAdmitted (text.get ⟨skipBlanks text position, skipBlanks_lt hlt⟩) := by
  obtain ⟨c, s, hdrop, hblank⟩ := exists_drop_skipBlanks hlt
  have hget : text.get ⟨skipBlanks text position, skipBlanks_lt hlt⟩ = c := by
    rw [List.drop_eq_getElem_cons (skipBlanks_lt hlt), List.cons.injEq] at hdrop
    exact hdrop.1
  rw [hget]
  unfold lexemeFrom? at h
  rw [hdrop] at h
  rintro (hc | hc | rfl | rfl | rfl)
  · rw [hblank] at hc
    cases hc
  · simp [mark?_eq_none_of_isWordChar hc, hc] at h
  all_goals simp [Token.mark?] at h

theorem length_sub_lt (hlt : position < (Text.trimRight text).length)
    (h : lexemeFrom? text position = some q) :
    text.length - (q.position + q.token.lexeme.length) < text.length - position := by
  obtain ⟨hstart, ht, -⟩ := lexemeFrom?_some h
  have hpos := ht.length_pos
  have hin := skipBlanks_lt hlt
  have hle : position ≤ skipBlanks text position := Nat.le_add_right _ _
  omega

/-- Cuts a text from a position on. Every look at the text comes with the proof that it is inside.
-/
def scanAt (text : List Char) (position : Nat) : Except SyntaxFault (List Placed) :=
  if hlt : position < (Text.trimRight text).length then
    match h : lexemeFrom? text position with
    | some q =>
      have := length_sub_lt hlt h
      (scanAt text (q.position + q.token.lexeme.length)).map (q :: ·)
    | none =>
      let start := skipBlanks text position
      .error (.character (text.get ⟨start, skipBlanks_lt hlt⟩) start)
  else .ok []
termination_by text.length - position

theorem scanAt_eq_scan (text : List Char) (position : Nat) :
    scanAt text position = scan position (text.drop position) := by
  fun_induction scanAt text position with
  | case1 position hlt q h hless ih =>
    obtain ⟨hstart, ht, s, hdrop, hs⟩ := lexemeFrom?_some h
    rw [ih, scan_skipBlanks text position, ← hstart, hdrop, scan_lexeme ht hs, ← List.drop_drop,
      hdrop, List.drop_left]
  | case2 position hlt h start =>
    rw [scan_skipBlanks text position, List.drop_eq_getElem_cons (skipBlanks_lt hlt)]
    exact (scan_stop (lexemeFrom?_none h hlt) _ _).symm
  | case3 position hle =>
    rw [scan_trimLeft, trimLeft_drop_eq_nil_iff.2 (Nat.not_lt.1 hle), scan_nil]

end Positions

/-! ## Any text -/

/-- Cutting a text loses nothing. By positions it comes to the same and looks at none that is
outside of the text; it succeeds if every character separates lexemes or belongs to one, and names
the first that does neither if there is one; and the lexemes that it finds are all that there is. -/
theorem scan_loses_nothing (text : List Char) :
    scanAt text 0 = scan 0 text ∧
    ((∃ qs, scan 0 text = .ok qs) ↔ ∀ c ∈ text, IsAdmitted c) ∧
    (∀ f, scan 0 text = .error f → ∃ before c after, text = before ++ c :: after ∧
      (∀ d ∈ before, IsAdmitted d) ∧ ¬IsAdmitted c ∧ f = .character c before.length) ∧
    ∀ qs, scan 0 text = .ok qs → IsCutInto text qs := by
  refine ⟨scanAt_eq_scan text 0, ?_, fun f hf => ?_, fun qs => isCutInto_of_scan⟩
  · rcases scan_cases 0 text with ⟨hall, hscan⟩ | ⟨before, c, after, rfl, -, hc, hscan⟩
    · exact iff_of_true hscan hall
    · refine iff_of_false (fun ⟨qs, hok⟩ => ?_) fun hall => hc (hall c (by simp))
      rw [hscan] at hok
      cases hok
  · rcases scan_cases 0 text with ⟨-, qs, hscan⟩ | ⟨before, c, after, htext, hall, hc, hscan⟩
    · rw [hf] at hscan
      cases hscan
    · rw [hf, Except.error.injEq, Nat.zero_add] at hscan
      exact ⟨before, c, after, htext, hall, hc, hscan⟩

theorem scan_loses_nothing_spaced :
    scan 0 " all(a:b ,\u2003c )\n".toList = .ok [⟨.word "all".toList, 1⟩, ⟨.lparen, 4⟩,
      ⟨.word "a:b".toList, 5⟩, ⟨.comma, 9⟩, ⟨.word "c".toList, 11⟩, ⟨.rparen, 13⟩] ∧
    IsCutInto " all(a:b ,\u2003c )\n".toList [⟨.word "all".toList, 1⟩, ⟨.lparen, 4⟩,
      ⟨.word "a:b".toList, 5⟩, ⟨.comma, 9⟩, ⟨.word "c".toList, 11⟩, ⟨.rparen, 13⟩] := by
  have hscan : scan 0 " all(a:b ,\u2003c )\n".toList = .ok [⟨.word "all".toList, 1⟩, ⟨.lparen, 4⟩,
      ⟨.word "a:b".toList, 5⟩, ⟨.comma, 9⟩, ⟨.word "c".toList, 11⟩, ⟨.rparen, 13⟩] := by
    decide +kernel
  exact ⟨hscan, (scan_loses_nothing _).2.2.2 _ hscan⟩

end Bearer.Requirement
