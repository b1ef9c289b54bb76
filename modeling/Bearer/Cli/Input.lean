/-!
# Lines of input

The lines of a text, each without its end. A line feed, a carriage return, or both together end a
line; what stands behind the last end is a line if it is not empty.

* `ofText_eq_nil_iff`: only an empty input has no lines.
-/
namespace Bearer.Cli.Input

/-- The lines of a text behind what has been read of the first one, in reverse. -/
def cut (read : List Char) : List Char → List (List Char)
  | [] => if read.isEmpty then [] else [read.reverse]
  | '\r' :: '\n' :: s => read.reverse :: cut [] s
  | c :: s =>
    if c = '\r' || c = '\n' then read.reverse :: cut [] s else cut (c :: read) s

theorem cut_eq_nil_iff (read s : List Char) : cut read s = [] ↔ read = [] ∧ s = [] := by
  fun_induction cut read s <;> simp_all

/-- The lines of a text. -/
def ofText (s : String) : List String :=
  (cut [] s.toList).map String.ofList

theorem ofText_eq_nil_iff (s : String) : ofText s = [] ↔ s = "" := by
  simp [ofText, cut_eq_nil_iff]

end Bearer.Cli.Input
