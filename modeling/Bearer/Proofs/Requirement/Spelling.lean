import Bearer.Requirement.Token
import Mathlib.Data.List.TakeWhile

/-!
# How requirements are spelled

A text spells a list of lexemes when it is their texts one after another with any blanks in front,
between and behind, and each word is as long as it can be. This says nothing of positions or of the
order in which a text is looked through; `scan` finds the lexemes that a text spells, and fails
exactly where it spells none.

* `spells_of_scan`, `exists_scan_of_spells`: `scan` succeeds on the texts that spell something, with
  the lexemes that they spell.
* `spells_spaced`: lexemes without two words in a row are spelled with any blanks between them.
-/
namespace Bearer.Requirement

/-- A text that is a word: at least one character, all of which may stand in a word. -/
def IsWord (w : List Char) : Prop :=
  w ≠ [] ∧ ∀ c ∈ w, isWordChar c = true

instance (w : List Char) : Decidable (IsWord w) :=
  decidable_of_iff ((!w.isEmpty && w.all isWordChar) = true) (by simp [IsWord])

/-- `Spells s ts`: the text `s` is spelled out of the lexemes `ts`. -/
inductive Spells : List Char → List Token → Prop where
  | nil : Spells [] []
  | blank {c : Char} {s : List Char} {ts : List Token} :
      Text.isBlank c = true → Spells s ts → Spells (c :: s) ts
  | lparen {s : List Char} {ts : List Token} : Spells s ts → Spells ('(' :: s) (.lparen :: ts)
  | rparen {s : List Char} {ts : List Token} : Spells s ts → Spells (')' :: s) (.rparen :: ts)
  | comma {s : List Char} {ts : List Token} : Spells s ts → Spells (',' :: s) (.comma :: ts)
  | word {w s : List Char} {ts : List Token} :
      IsWord w → (∀ c ∈ s.head?, isWordChar c = false) → Spells s ts →
        Spells (w ++ s) (.word w :: ts)

/-! ## Classes of characters -/

theorem toNat_of_isWordChar {c : Char} (h : isWordChar c = true) :
    45 ≤ c.toNat ∧ c.toNat ≤ 122 := by
  simp only [isWordChar, Bool.or_eq_true, Bool.and_eq_true, decide_eq_true_eq] at h
  rcases h with (((((h | h) | h) | rfl) | rfl) | rfl) | rfl
  · omega
  · omega
  · omega
  all_goals decide

theorem isBlank_eq_false_of_isWordChar {c : Char} (h : isWordChar c = true) :
    Text.isBlank c = false := by
  have hc := toNat_of_isWordChar h
  rw [← Bool.not_eq_true]
  simp only [Text.isBlank, Bool.or_eq_true, Bool.and_eq_true, decide_eq_true_eq, beq_iff_eq]
  omega

theorem isWordChar_eq_false_of_isBlank {c : Char} (h : Text.isBlank c = true) :
    isWordChar c = false := by
  rw [← Bool.not_eq_true]
  intro hc
  rw [isBlank_eq_false_of_isWordChar hc] at h
  cases h

theorem ne_of_isWordChar {c d : Char} (hc : isWordChar c = true) (hd : isWordChar d = false) :
    c ≠ d := by
  rintro rfl
  rw [hc] at hd
  cases hd

theorem mark?_eq_none_of_isWordChar {c : Char} (h : isWordChar c = true) :
    Token.mark? c = none := by
  rw [Token.mark?, if_neg (ne_of_isWordChar h (by decide)),
    if_neg (ne_of_isWordChar h (by decide)), if_neg (ne_of_isWordChar h (by decide))]

/-! ## One step of cutting

`scan` is unfolded as a whole here: its equations for the single cases take long to derive. -/

theorem scan_nil (n : Nat) : scan n [] = .ok [] := by
  rw [scan.eq_def]

theorem scan_blank {c : Char} (h : Text.isBlank c = true) (n : Nat) (s : List Char) :
    scan n (c :: s) = scan (n + 1) s := by
  rw [scan.eq_def]
  exact if_pos h

theorem scan_mark {c : Char} {t : Token} (hb : Text.isBlank c = false)
    (ht : Token.mark? c = some t) (n : Nat) (s : List Char) :
    scan n (c :: s) = (scan (n + 1) s).map (⟨t, n⟩ :: ·) := by
  rw [scan.eq_def]
  dsimp only
  rw [if_neg (by rw [hb]; exact Bool.false_ne_true), ht]
  cases scan (n + 1) s <;> rfl

/-- A word is cut off where no word continues it. -/
theorem cut_word {w s : List Char} (hw : ∀ c ∈ w, isWordChar c = true)
    (hs : ∀ c ∈ s.head?, isWordChar c = false) :
    (w ++ s).takeWhile isWordChar = w ∧ (w ++ s).dropWhile isWordChar = s := by
  have hstop : s.takeWhile isWordChar = [] ∧ s.dropWhile isWordChar = s := by
    cases s with
    | nil => exact ⟨rfl, rfl⟩
    | cons c s => simp [hs c rfl]
  rw [List.takeWhile_append_of_pos hw, List.dropWhile_append_of_pos hw, hstop.1, hstop.2,
    List.append_nil]
  exact ⟨rfl, rfl⟩

theorem scan_word {w s : List Char} (hw : IsWord w) (hs : ∀ c ∈ s.head?, isWordChar c = false)
    (n : Nat) : scan n (w ++ s) = (scan (n + w.length) s).map (⟨.word w, n⟩ :: ·) := by
  obtain ⟨hne, hall⟩ := hw
  cases w with
  | nil => exact absurd rfl hne
  | cons c w =>
    have hc := hall c (List.mem_cons_self ..)
    obtain ⟨htake, hdrop⟩ := cut_word (fun d hd => hall d (List.mem_cons_of_mem c hd)) hs
    rw [List.cons_append, scan.eq_def]
    dsimp only
    rw [if_neg (by rw [isBlank_eq_false_of_isWordChar hc]; exact Bool.false_ne_true),
      mark?_eq_none_of_isWordChar hc]
    simp only [if_pos hc, htake, hdrop]
    cases scan (n + (c :: w).length) s <;> rfl

/-! ## `scan` and spelling -/

/-- The word that starts with a character, and what follows it. -/
theorem isWord_cut {c : Char} (h : isWordChar c = true) (s : List Char) :
    IsWord (c :: s.takeWhile isWordChar) ∧
      ∀ d ∈ (s.dropWhile isWordChar).head?, isWordChar d = false := by
  refine ⟨⟨List.cons_ne_nil _ _, fun d hd => ?_⟩, fun d hd => ?_⟩
  · rcases List.mem_cons.1 hd with rfl | hd
    · exact h
    · exact List.mem_takeWhile_imp hd
  · have hstop := List.head?_dropWhile_not isWordChar s
    rw [Option.mem_def.1 hd] at hstop
    exact hstop

theorem spells_mark {c : Char} {t : Token} (ht : Token.mark? c = some t) {s : List Char}
    {ts : List Token} (hs : Spells s ts) : Spells (c :: s) (t :: ts) := by
  unfold Token.mark? at ht
  split at ht
  · rename_i hc
    cases ht
    exact hc ▸ hs.lparen
  · split at ht
    · rename_i hc
      cases ht
      exact hc ▸ hs.rparen
    · split at ht
      · rename_i hc
        cases ht
        exact hc ▸ hs.comma
      · cases ht

/-- The lexemes that `scan` finds spell the text. -/
theorem spells_of_scan {n : Nat} {s : List Char} {qs : List Placed} (h : scan n s = .ok qs) :
    Spells s (qs.map Placed.token) := by
  fun_induction scan n s generalizing qs with
  | case1 n =>
    cases h
    exact .nil
  | case2 n c s hb ih => exact .blank hb (ih h)
  | case3 n c s hb t ht ts hts ih =>
    cases h
    exact spells_mark ht (ih hts)
  | case5 n c s hb ht hc w ts hts =>
    rename_i ih
    cases h
    obtain ⟨hw, hstop⟩ := isWord_cut hc s
    have hspell := Spells.word hw hstop (ih hts)
    rw [List.cons_append, List.takeWhile_append_dropWhile] at hspell
    exact hspell
  | case4 | case6 | case7 => cases h

theorem exists_scan_mark {c : Char} {t : Token} {s : List Char} {ts : List Token} {n : Nat}
    (hb : Text.isBlank c = false) (ht : Token.mark? c = some t)
    (h : ∃ qs, scan (n + 1) s = .ok qs ∧ qs.map Placed.token = ts) :
    ∃ qs, scan n (c :: s) = .ok qs ∧ qs.map Placed.token = t :: ts := by
  obtain ⟨qs, hq, rfl⟩ := h
  refine ⟨⟨t, n⟩ :: qs, ?_, rfl⟩
  rw [scan_mark hb ht, hq]
  rfl

/-- What a text spells is what `scan` finds. -/
theorem exists_scan_of_spells {s : List Char} {ts : List Token} (h : Spells s ts) (n : Nat) :
    ∃ qs, scan n s = .ok qs ∧ qs.map Placed.token = ts := by
  induction h generalizing n with
  | nil => exact ⟨[], scan_nil n, rfl⟩
  | blank hb hs ih =>
    obtain ⟨qs, hq, rfl⟩ := ih (n + 1)
    exact ⟨qs, by rw [scan_blank hb, hq], rfl⟩
  | lparen hs ih => exact exists_scan_mark (by decide) rfl (ih (n + 1))
  | rparen hs ih => exact exists_scan_mark (by decide) rfl (ih (n + 1))
  | comma hs ih => exact exists_scan_mark (by decide) rfl (ih (n + 1))
  | @word w s ts hw hstop hs ih =>
    obtain ⟨qs, hq, rfl⟩ := ih (n + w.length)
    refine ⟨⟨.word w, n⟩ :: qs, ?_, rfl⟩
    rw [scan_word hw hstop, hq]
    rfl

/-! ## Blanks between lexemes -/

/-- Lexemes with characters in front of each and behind the last one: `gap i` stands in front of
the lexeme with the number `i`. -/
def spaced (gap : Nat → List Char) (i : Nat) : List Token → List Char
  | [] => gap i
  | t :: ts => gap i ++ (t.lexeme ++ spaced gap (i + 1) ts)

/-- Whether a lexeme is a word. -/
def Token.isWord : Token → Bool
  | .word _ => true
  | .lparen => false
  | .rparen => false
  | .comma => false

/-- No word follows another directly, and what stands for a word is one. -/
def AreApart : List Token → Prop
  | [] => True
  | .word w :: ts => IsWord w ∧ (∀ t ∈ ts.head?, t.isWord = false) ∧ AreApart ts
  | .lparen :: ts => AreApart ts
  | .rparen :: ts => AreApart ts
  | .comma :: ts => AreApart ts

theorem Spells.blanks {b s : List Char} {ts : List Token} (hb : ∀ c ∈ b, Text.isBlank c = true)
    (hs : Spells s ts) : Spells (b ++ s) ts := by
  induction b with
  | nil => exact hs
  | cons c b ih =>
    exact .blank (hb c (List.mem_cons_self ..)) (ih fun d hd => hb d (List.mem_cons_of_mem c hd))

variable {gap : Nat → List Char}

/-- Where no word comes first, no word is continued. -/
theorem head?_spaced (hgap : ∀ i, ∀ c ∈ gap i, Text.isBlank c = true) (i : Nat) {ts : List Token}
    (hts : ∀ t ∈ ts.head?, t.isWord = false) :
    ∀ c ∈ (spaced gap i ts).head?, isWordChar c = false := by
  intro c hc
  have hi := hgap i
  cases hg : gap i with
  | cons d b =>
    rw [hg] at hi
    have hd : c = d := by
      cases ts <;> simpa [spaced, hg, eq_comm] using hc
    exact isWordChar_eq_false_of_isBlank (hi c (hd ▸ List.mem_cons_self ..))
  | nil =>
    cases ts with
    | nil => simp [spaced, hg] at hc
    | cons t ts =>
      have ht := hts t rfl
      cases t with
      | word w => simp [Token.isWord] at ht
      | lparen | rparen | comma =>
        simp only [spaced, hg, Token.lexeme, List.nil_append, List.cons_append, List.head?_cons,
          Option.mem_def, Option.some.injEq] at hc
        exact hc ▸ (by decide)

/-- Lexemes without two words in a row are spelled with any blanks between them. -/
theorem spells_spaced (hgap : ∀ i, ∀ c ∈ gap i, Text.isBlank c = true) {ts : List Token}
    (hts : AreApart ts) (i : Nat) : Spells (spaced gap i ts) ts := by
  induction ts generalizing i with
  | nil =>
    have hs := Spells.nil.blanks (hgap i)
    rwa [List.append_nil] at hs
  | cons t ts ih =>
    refine Spells.blanks (hgap i) ?_
    cases t with
    | word w =>
      obtain ⟨hw, hhead, hrest⟩ := hts
      exact .word hw (head?_spaced hgap (i + 1) hhead) (ih hrest (i + 1))
    | lparen => exact .lparen (ih hts (i + 1))
    | rparen => exact .rparen (ih hts (i + 1))
    | comma => exact .comma (ih hts (i + 1))

end Bearer.Requirement
