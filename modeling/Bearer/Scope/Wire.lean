import Bearer.Scope.Basic

/-!
# Scope lists on the wire

Requests carry a list of scopes as one text, the scopes separated by a single space; answers carry
either that or an array. `join` writes the text and `split` reads it, dropping what is empty.
Texts in this module are lists of characters, and only U+0020 separates.

* `pieces_append_space`, `pieces_of_not_mem`: what the cutting at spaces does.
* `joinTexts_eq`: what the text of several scopes is.
-/
namespace Bearer.Scope

/-- The pieces of a text between spaces, empty ones kept; always at least one. -/
def pieces : List Char → List (List Char)
  | [] => [[]]
  | c :: s =>
    if c = ' ' then [] :: pieces s
    else match pieces s with
      | [] => [[c]]
      | p :: ps => (c :: p) :: ps

theorem pieces_ne_nil (s : List Char) : pieces s ≠ [] := by
  cases s with
  | nil => simp [pieces]
  | cons c s =>
    unfold pieces
    split
    · simp
    · split <;> simp

theorem pieces_append_space (s t : List Char) (h : ' ' ∉ s) :
    pieces (s ++ ' ' :: t) = s :: pieces t := by
  induction s with
  | nil => simp [pieces]
  | cons c s ih =>
    simp only [List.mem_cons, not_or] at h
    have hc : c ≠ ' ' := fun e => h.1 e.symm
    simp [pieces, hc, ih h.2]

theorem pieces_of_not_mem {s : List Char} (h : ' ' ∉ s) : pieces s = [s] := by
  induction s with
  | nil => rfl
  | cons c s ih =>
    simp only [List.mem_cons, not_or] at h
    have hc : c ≠ ' ' := fun e => h.1 e.symm
    simp [pieces, hc, ih h.2]

/-- The words of a text: its pieces that are not empty. -/
def words (s : List Char) : List (List Char) :=
  (pieces s).filter fun p => !p.isEmpty

/-- The text of a list of words. -/
def unwords : List (List Char) → List Char
  | [] => []
  | [w] => w
  | w :: ws => w ++ ' ' :: unwords ws

theorem unwords_eq (ws : List (List Char)) : unwords ws = (" ".toList).intercalate ws := by
  induction ws with
  | nil => rfl
  | cons w ws ih =>
    cases ws with
    | nil => simp [unwords]
    | cons v vs => simp [unwords, ih]

/-- The text for a list of scope texts. -/
def joinTexts (ts : List String) : String :=
  String.ofList (unwords (ts.map String.toList))

/-- Scopes in a text are separated by one space each. -/
theorem joinTexts_eq (ts : List String) : joinTexts ts = " ".intercalate ts := by
  rw [joinTexts, unwords_eq, ← String.toList_intercalate, String.ofList_toList]

/-- The text for a list of scopes. -/
def join (ss : List Scope) : String :=
  joinTexts (ss.map (·.text))

theorem join_eq (ss : List Scope) : join ss = " ".intercalate (ss.map (·.text)) :=
  joinTexts_eq _

/-- The scope texts in a text; absent if there are none. -/
def split? (s : String) : Option (List String) :=
  match words s.toList with
  | [] => none
  | ws => some (ws.map String.ofList)

end Bearer.Scope
