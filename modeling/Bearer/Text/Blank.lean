/-!
# Blank characters

The characters that separate words: the ASCII controls from tab to carriage return and from file
separator to unit separator, the space, next line (U+0085), and the spaces and the line and
paragraph separators of Unicode. Trimming removes a run of them from one end or from both.

* `trimLeft_idem`: nothing blank is left at the front of a trimmed text.
* `trimRight_append_of_blank`: blanks at the end never change what trimming the end leaves.
-/
namespace Bearer.Text

/-- Whether a character is blank. -/
def isBlank (c : Char) : Bool :=
  let n := c.toNat
  (9 ≤ n && n ≤ 13) || (28 ≤ n && n ≤ 32) || n == 0x85 || n == 0xa0 || n == 0x1680 ||
    (0x2000 ≤ n && n ≤ 0x200a) || n == 0x2028 || n == 0x2029 || n == 0x202f || n == 0x205f ||
    n == 0x3000

/-- The text without the blanks in front. -/
def trimLeft (s : List Char) : List Char :=
  s.dropWhile isBlank

/-- The text without the blanks at the end. -/
def trimRight (s : List Char) : List Char :=
  (s.reverse.dropWhile isBlank).reverse

/-- The text without the blanks at both ends. -/
def trim (s : List Char) : List Char :=
  trimRight (trimLeft s)

/-- `trim` on strings. -/
def trimmed (s : String) : String :=
  String.ofList (trim s.toList)

theorem trimLeft_cons_of_blank {c : Char} (s : List Char) (h : isBlank c = true) :
    trimLeft (c :: s) = trimLeft s := by
  simp [trimLeft, h]

theorem trimLeft_cons_of_not_blank {c : Char} (s : List Char) (h : isBlank c = false) :
    trimLeft (c :: s) = c :: s := by
  simp [trimLeft, h]

theorem trimLeft_idem (s : List Char) : trimLeft (trimLeft s) = trimLeft s := by
  induction s with
  | nil => rfl
  | cons c s ih =>
    cases h : isBlank c
    · simp [trimLeft_cons_of_not_blank s h]
    · simpa [trimLeft_cons_of_blank s h] using ih

theorem trimRight_append_of_blank (s : List Char) {c : Char} (h : isBlank c = true) :
    trimRight (s ++ [c]) = trimRight s := by
  simp [trimRight, h]

theorem length_trimLeft_le (s : List Char) : (trimLeft s).length ≤ s.length :=
  (List.dropWhile_sublist _).length_le

end Bearer.Text
