/-!
# Control sequences

A terminal reads an escape, an opening bracket, numbers between semicolons or a question mark, and a
letter as an order: to show what follows in a colour, say. Anything that is no terminal gets a text
without such sequences. An escape that begins none is left where it is.

* `plain_of_not_mem`: a text without escapes stays as it is.
-/
namespace Bearer.Cli.Controls

/-- The character that begins a control sequence. -/
def escape : Char := Char.ofNat 27

/-- Whether a character may stand between the bracket and the letter. -/
def isParameter (c : Char) : Bool :=
  c.isDigit || c = ';' || c = '?'

/-- The rest of a text behind the control sequence that it begins with, if it begins with one. -/
def behind? : List Char → Option (List Char)
  | c :: '[' :: s =>
    if c = escape then
      match s.dropWhile isParameter with
      | l :: rest => if l.isAlpha then some rest else none
      | [] => none
    else none
  | _ => none

theorem behind?_length {s rest : List Char} (h : behind? s = some rest) :
    rest.length < s.length := by
  unfold behind? at h
  split at h
  · rename_i s
    have hl := (List.dropWhile_suffix (l := s) isParameter).length_le
    split at h
    · split at h
      · rename_i hd
        split at h
        · cases h
          simp only [hd, List.length_cons] at hl ⊢
          omega
        · cases h
      · cases h
    · cases h
  · cases h

/-- A text without its control sequences. -/
def plain (s : List Char) : List Char :=
  match s with
  | [] => []
  | c :: t =>
    match _h : behind? (c :: t) with
    | some rest => plain rest
    | none => c :: plain t
termination_by s.length
decreasing_by
  · exact behind?_length ‹_›
  · simp

theorem plain_of_not_mem {s : List Char} (h : escape ∉ s) : plain s = s := by
  induction s with
  | nil => rw [plain]
  | cons c t ih =>
    have hn : behind? (c :: t) = none := by
      have hc : c ≠ escape := fun e => h (e ▸ List.mem_cons_self)
      unfold behind?
      split
      · rename_i he
        rw [List.cons.injEq] at he
        rw [if_neg (he.1 ▸ hc)]
      · rfl
    rw [plain]
    split
    · rename_i he
      rw [hn] at he
      cases he
    · rw [ih fun hm => h (List.mem_cons_of_mem c hm)]

/-- A text without its control sequences. -/
def strip (s : String) : String :=
  String.ofList (plain s.toList)

end Bearer.Cli.Controls
