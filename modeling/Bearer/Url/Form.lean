import Bearer.Url.Percent

/-!
# Form encoding

The parameters of a query are written as `name=value` with `&` between them. In names and values
everything but ASCII letters, digits and `_ . - ~` is escaped, a space as `+`. Reading drops empty
pieces, and a piece without `=` is a name with an empty value.

* `component_append`: components are written character by character.
* `fieldOf_eq`: a piece is cut at its first `=`.
-/
namespace Bearer.Url.Form

/-- A parameter: its name and its value. -/
abbrev Param := String × String

/-- One character of a name or a value. -/
def componentChar (c : Char) : List Char :=
  if c = ' ' then ['+'] else escapeChar isUnreserved c

/-- A name or a value. -/
def component (s : List Char) : List Char :=
  s.flatMap componentChar

@[simp] theorem component_append (s t : List Char) :
    component (s ++ t) = component s ++ component t := by
  simp [component]

/-- A parameter. -/
def field (p : Param) : List Char :=
  component p.1.toList ++ '=' :: component p.2.toList

/-- Pieces with a separator between them. -/
def separated (separator : Char) : List (List Char) → List Char
  | [] => []
  | [p] => p
  | p :: ps => p ++ separator :: separated separator ps

/-- The text of a list of parameters. -/
def encode (ps : List Param) : List Char :=
  separated '&' (ps.map field)

/-- The pieces of a text between separators, empty ones kept. -/
def pieces (separator : Char) : List Char → List (List Char)
  | [] => [[]]
  | c :: s =>
    if c = separator then [] :: pieces separator s
    else match pieces separator s with
      | [] => [[c]]
      | p :: ps => (c :: p) :: ps

/-- A plus sign stands for a space. -/
def plusToSpace (s : List Char) : List Char :=
  s.map fun c => if c = '+' then ' ' else c

/-- A name or a value read back. -/
def decodeComponent (s : List Char) : List Char :=
  unescape (plusToSpace s)

/-- The parameter that a piece is. -/
def fieldOf (piece : List Char) : Param :=
  (String.ofList (decodeComponent (piece.takeWhile (· != '='))),
    String.ofList (decodeComponent ((piece.dropWhile (· != '=')).drop 1)))

theorem fieldOf_eq (name value : List Char) (h : '=' ∉ name) :
    fieldOf (name ++ '=' :: value) =
      (String.ofList (decodeComponent name), String.ofList (decodeComponent value)) := by
  have hp : ∀ c ∈ name, (c != '=') = true := by
    intro c hc
    simp only [bne_iff_ne, ne_eq]
    rintro rfl
    exact h hc
  have ht : ((name ++ '=' :: value).takeWhile (· != '=')) = name := by
    rw [List.takeWhile_append_of_pos hp]; simp
  have hd : ((name ++ '=' :: value).dropWhile (· != '=')) = '=' :: value := by
    rw [List.dropWhile_append_of_pos hp]; simp
  simp [fieldOf, ht, hd]

/-- The parameters of a text. -/
def decode (s : List Char) : List Param :=
  ((pieces '&' s).filter fun p => !p.isEmpty).map fieldOf

end Bearer.Url.Form
