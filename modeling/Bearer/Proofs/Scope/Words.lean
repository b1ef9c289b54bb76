import Bearer.Scope.Wire
import Mathlib.Data.List.DropRight

/-!
# Words and the spaces between them

A text of scopes is words with spaces between them, in front and behind. `onWords` is the induction
over such a text: it is empty, or it starts with a space or with a word, and a word reaches to the
end or to a space. So cutting a text into words takes back the writing of words into a text, and
writing the words of a text leaves one space where there was a run of them, and none at either end.

* `words_unwords`, `pieces_unwords`: words that are written are read back.
* `unwords_words`: what writing the words of a text makes of it.
-/
namespace Bearer.Scope

/-- What stands between spaces. -/
structure IsWord (w : List Char) : Prop where
  ne_nil : w ≠ []
  plain : ' ' ∉ w

variable {s w : List Char} {ws : List (List Char)}

/-! ## Cutting -/

@[simp] theorem words_space (s : List Char) : words (' ' :: s) = words s := by
  simp [words, pieces]

theorem words_of_isWord (h : IsWord w) : words w = [w] := by
  simp [words, pieces_of_not_mem h.plain, h.ne_nil]

theorem words_append (h : IsWord w) (s : List Char) : words (w ++ ' ' :: s) = w :: words s := by
  simp [words, pieces_append_space w s h.plain, h.ne_nil]

/-- Induction over a text from word to word. -/
@[elab_as_elim]
theorem onWords {motive : List Char → Prop} (nil : motive [])
    (space : ∀ s, motive s → motive (' ' :: s)) (word : ∀ w, IsWord w → motive w)
    (append : ∀ w s, IsWord w → motive s → motive (w ++ ' ' :: s)) (s : List Char) : motive s := by
  induction hn : s.length using Nat.strongRecOn generalizing s with
  | ind n ih =>
    cases s with
    | nil => exact nil
    | cons c s =>
      by_cases hc : c = ' '
      · subst hc
        exact space s (ih s.length (by simp [← hn]) s rfl)
      have hcut := List.takeWhile_append_dropWhile (p := (· != ' ')) (l := c :: s)
      have hw : IsWord ((c :: s).takeWhile (· != ' ')) :=
        ⟨by simp [hc], fun h => by simpa using List.mem_takeWhile_imp h⟩
      generalize (c :: s).takeWhile (· != ' ') = w at *
      cases hrest : (c :: s).dropWhile (· != ' ') with
      | nil =>
        rw [← hcut, hrest, List.append_nil]
        exact word w hw
      | cons d t =>
        -- only a space ends a word
        have hd : d = ' ' := by
          have h := List.head_dropWhile_not (l := c :: s) (· != ' ') (by simp [hrest])
          simpa [hrest] using h
        rw [hrest, hd] at hcut
        have hlength := congrArg List.length hcut
        rw [List.length_append, List.length_cons, hn] at hlength
        rw [← hcut]
        exact append w t hw (ih t.length (by omega) t rfl)

theorem isWord_of_mem_words (h : w ∈ words s) : IsWord w := by
  induction s using onWords with
  | nil => exact absurd h List.not_mem_nil
  | space s ih => exact ih (by simpa using h)
  | word v hv =>
    rw [words_of_isWord hv, List.mem_singleton] at h
    exact h ▸ hv
  | append v s hv ih =>
    rw [words_append hv, List.mem_cons] at h
    exact h.elim (fun h => h ▸ hv) ih

/-! ## Words that are written -/

theorem unwords_cons (w : List Char) (ws : List (List Char)) :
    unwords (w :: ws) = if ws = [] then w else w ++ ' ' :: unwords ws := by
  cases ws <;> simp [unwords]

theorem unwords_eq_nil_iff (h : ∀ w ∈ ws, IsWord w) : unwords ws = [] ↔ ws = [] := by
  cases ws with
  | nil => simp [unwords]
  | cons w ws =>
    have hw := (h w List.mem_cons_self).ne_nil
    rw [unwords_cons]
    split <;> simp [hw]

theorem words_unwords (h : ∀ w ∈ ws, IsWord w) : words (unwords ws) = ws := by
  induction ws with
  | nil => rfl
  | cons w ws ih =>
    obtain ⟨hw, hws⟩ := List.forall_mem_cons.1 h
    rw [unwords_cons]
    split
    · rename_i hnil
      rw [words_of_isWord hw, hnil]
    · rw [words_append hw, ih hws]

/-- Words have nothing empty between them, so cutting at each space finds them too. -/
theorem pieces_unwords (h : ∀ w ∈ ws, IsWord w) (hne : ws ≠ []) : pieces (unwords ws) = ws := by
  induction ws with
  | nil => exact absurd rfl hne
  | cons w ws ih =>
    obtain ⟨hw, hws⟩ := List.forall_mem_cons.1 h
    rw [unwords_cons]
    split
    · rename_i hnil
      rw [pieces_of_not_mem hw.plain, hnil]
    · rename_i hcons
      rw [pieces_append_space w _ hw.plain, ih hws hcons]

/-! ## Texts that are tidied -/

/-- Whether a character is the space that separates. -/
def isSpace (c : Char) : Bool :=
  c == ' '

/-- Each run of spaces as one. -/
def oneSpaced : List Char → List Char
  | [] => []
  | c :: s => if c = ' ' ∧ s.head? = some ' ' then oneSpaced s else c :: oneSpaced s

/-- Each run of spaces as one, and none at the ends. -/
def tidied (s : List Char) : List Char :=
  ((oneSpaced s).dropWhile isSpace).rdropWhile isSpace

theorem oneSpaced_append (h : ' ' ∉ w) (s : List Char) : oneSpaced (w ++ s) = w ++ oneSpaced s := by
  induction w with
  | nil => rfl
  | cons c w ih =>
    obtain ⟨hc, hw⟩ := not_or.1 (List.mem_cons.not.1 h)
    rw [List.cons_append, oneSpaced, if_neg fun hs => hc hs.1.symm, ih hw]
    rfl

/-- A run of spaces is one space in front of what stands behind the run. -/
theorem oneSpaced_space (s : List Char) :
    oneSpaced (' ' :: s) = ' ' :: (oneSpaced s).dropWhile isSpace := by
  induction s with
  | nil => rfl
  | cons c s ih =>
    by_cases hc : c = ' '
    · subst hc
      rw [oneSpaced, if_pos ⟨rfl, rfl⟩, ih, List.dropWhile_cons_of_pos rfl,
        List.dropWhile_idempotent]
    · have hcons : oneSpaced (c :: s) = c :: oneSpaced s := if_neg fun h => hc h.1
      have hkept : isSpace c = false := by simp [isSpace, hc]
      rw [oneSpaced, if_neg (by simp [hc]), hcons, List.dropWhile_cons_of_neg (by simp [hkept])]

theorem tidied_space (s : List Char) : tidied (' ' :: s) = tidied s := by
  rw [tidied, oneSpaced_space, List.dropWhile_cons_of_pos rfl, List.dropWhile_idempotent]
  rfl

theorem isSpace_of_mem (h : IsWord w) {c : Char} (hc : c ∈ w) : isSpace c = false := by
  have hne : c ≠ ' ' := fun he => h.plain (he ▸ hc)
  simp [isSpace, hne]

theorem dropWhile_word (h : IsWord w) (s : List Char) :
    (w ++ s).dropWhile isSpace = w ++ s := by
  obtain ⟨c, w, rfl⟩ := List.exists_cons_of_ne_nil h.ne_nil
  have hc := isSpace_of_mem h (List.mem_cons_self)
  exact List.dropWhile_cons_of_neg (by simp [hc])

theorem rdropWhile_word (h : IsWord w) : w.rdropWhile isSpace = w :=
  List.rdropWhile_eq_self_iff.2 fun hne => by
    simp [isSpace_of_mem h (List.getLast_mem hne)]

/-- Dropping from the end goes on into the front only if it drops all behind it. -/
theorem rdropWhile_append (u v : List Char) : (u ++ v).rdropWhile isSpace =
    if v.rdropWhile isSpace = [] then u.rdropWhile isSpace else u ++ v.rdropWhile isSpace := by
  simp only [List.rdropWhile, List.reverse_append, List.dropWhile_append, List.isEmpty_iff,
    List.reverse_eq_nil_iff]
  split
  · rfl
  · rw [List.reverse_append, List.reverse_reverse]

theorem tidied_word (h : IsWord w) : tidied w = w := by
  have hone := oneSpaced_append h.plain []
  have hdrop := dropWhile_word h []
  rw [List.append_nil] at hone hdrop
  rw [tidied, hone, oneSpaced, List.append_nil, hdrop, rdropWhile_word h]

theorem tidied_append (h : IsWord w) (s : List Char) :
    tidied (w ++ ' ' :: s) = if tidied s = [] then w else w ++ ' ' :: tidied s := by
  have hfront : ((oneSpaced (w ++ ' ' :: s)).dropWhile isSpace) =
      w ++ ' ' :: (oneSpaced s).dropWhile isSpace := by
    rw [oneSpaced_append h.plain, oneSpaced_space, dropWhile_word h]
  rw [tidied, hfront, List.append_cons, rdropWhile_append,
    List.rdropWhile_concat_pos _ _ _ rfl, rdropWhile_word h, List.append_assoc]
  rfl

/-- Writing the words of a text leaves one space between them and none outside. -/
theorem unwords_words (s : List Char) : unwords (words s) = tidied s := by
  induction s using onWords with
  | nil => rfl
  | space s ih => rw [words_space, ih, tidied_space]
  | word w hw => rw [words_of_isWord hw, tidied_word hw]; rfl
  | append w s hw ih =>
    have hnil : words s = [] ↔ tidied s = [] := by
      rw [← ih, unwords_eq_nil_iff fun _ => isWord_of_mem_words]
    rw [words_append hw, unwords_cons, tidied_append hw, ih]
    simp only [hnil]

end Bearer.Scope
