import Bearer.Text.Blank
import Mathlib.Data.List.Basic
import Mathlib.Data.List.TakeWhile

/-!
# Trimmed texts

What trimming leaves of a text starts and ends with characters that are not blank, and only blanks
stand round it. Whatever starts and ends like that is what trimming leaves of it with blanks round
it.

* `trim_append`: trimming drops the blanks round a text.
* `exists_trim`: a text is a trimmed one with blanks round it.
-/
namespace Bearer.Text

theorem trimLeft_of_head? {s : List Char} (h : ∀ c ∈ s.head?, isBlank c = false) :
    trimLeft s = s := by
  cases s with
  | nil => rfl
  | cons c s => exact trimLeft_cons_of_not_blank s (h c rfl)

theorem trimRight_of_getLast? {s : List Char} (h : ∀ c ∈ s.getLast?, isBlank c = false) :
    trimRight s = s := by
  have hhead : ∀ c ∈ s.reverse.head?, isBlank c = false := fun c hc =>
    h c (by rwa [List.head?_reverse] at hc)
  exact (congrArg List.reverse (trimLeft_of_head? hhead)).trans s.reverse_reverse

/-- Blanks round a text are all that trimming drops, if the text starts and ends with others. -/
theorem trim_append {s front behind : List Char} (hfront : ∀ c ∈ front, isBlank c = true)
    (hbehind : ∀ c ∈ behind, isBlank c = true) (hne : s ≠ [])
    (hhead : ∀ c ∈ s.head?, isBlank c = false) (hlast : ∀ c ∈ s.getLast?, isBlank c = false) :
    trim (front ++ (s ++ behind)) = s := by
  have hleft : trimLeft (front ++ (s ++ behind)) = s ++ behind := by
    have hkept : trimLeft (s ++ behind) = s ++ behind := trimLeft_of_head? fun c hc =>
      hhead c (by rwa [List.head?_append_of_ne_nil _ hne] at hc)
    rw [trimLeft, List.dropWhile_append_of_pos hfront]
    exact hkept
  have hright : trimRight (s ++ behind) = trimRight s := by
    rw [trimRight, List.reverse_append, List.dropWhile_append_of_pos fun c hc =>
      hbehind c (List.mem_reverse.1 hc)]
    rfl
  rw [trim, hleft, hright, trimRight_of_getLast? hlast]

theorem head?_trimLeft (s : List Char) : ∀ c ∈ (trimLeft s).head?, isBlank c = false := by
  intro c hc
  have hfirst := List.head?_dropWhile_not isBlank s
  rw [← trimLeft, Option.mem_def.1 hc] at hfirst
  exact hfirst

/-- A text is a trimmed one with blanks round it. -/
theorem exists_trim (s : List Char) : ∃ front behind, s = front ++ (trim s ++ behind) ∧
    (∀ c ∈ front, isBlank c = true) ∧ (∀ c ∈ behind, isBlank c = true) ∧
    (∀ c ∈ (trim s).head?, isBlank c = false) ∧ ∀ c ∈ (trim s).getLast?, isBlank c = false := by
  have hleft : s = s.takeWhile isBlank ++ trimLeft s := List.takeWhile_append_dropWhile.symm
  have hright (t : List Char) : t = trimRight t ++ (t.reverse.takeWhile isBlank).reverse := by
    rw [trimRight, ← List.reverse_append, List.takeWhile_append_dropWhile, List.reverse_reverse]
  refine ⟨_, _, hleft.trans (congrArg _ (hright _)), fun c => List.mem_takeWhile_imp, ?_, ?_, ?_⟩
  · intro c hc
    exact List.mem_takeWhile_imp (List.mem_reverse.1 hc)
  · intro c hc
    refine head?_trimLeft s c ?_
    rw [hright (trimLeft s)]
    exact List.mem_head?_append_of_mem_head? hc
  · intro c hc
    rw [trim, trimRight, List.getLast?_reverse] at hc
    exact head?_trimLeft _ c hc

end Bearer.Text
