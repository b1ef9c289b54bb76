import Bearer.Json.Value
import Bearer.Scope.Catalogue

/-!
# Scopes from untyped data

Where a scope is expected, data of any shape may stand. Only a text is a scope; the faults say
what stood there instead. Looking a value up in the list of documented scopes comes before its
shape is checked, and containers cannot even be looked up.
-/
namespace Bearer.Scope

/-- Why a value is no scope, or no collection of scopes. -/
inductive Fault where
  /-- A value of this kind is no text. -/
  | notText (kind : String)
  /-- A value of this kind cannot be looked up. -/
  | notKeyable (kind : String)
  /-- A value of this kind holds no scopes. -/
  | notCollection (kind : String)
  /-- A single scope stands for a collection. -/
  | single
deriving DecidableEq, Repr

/-- The wording of a fault. -/
def Fault.message : Fault → String
  | .notText kind => "Scope value must be a string, got " ++ kind
  | .notKeyable kind => "unhashable type: '" ++ kind ++ "'"
  | .notCollection kind => "'" ++ kind ++ "' object is not iterable"
  | .single => "Expected a collection of scopes, not a single scope"

/-- A scope made anew. -/
def ofJson : Json → Except Fault Scope
  | .str s => .ok ⟨s⟩
  | v => .error (.notText v.kind)

/-- A scope looked up in the list first. -/
def lookUp : Json → Except Fault Scope
  | .arr items => .error (.notKeyable (Json.arr items).kind)
  | .obj fields => .error (.notKeyable (Json.obj fields).kind)
  | v => ofJson v

/-- The items of a collection: those of an array, the keys of an object, the characters of a
text. -/
def items : Json → Except Fault (List Json)
  | .arr items => .ok items
  | .obj fields => .ok (fields.map fun f => .str f.1)
  | .str s => .ok (s.toList.map fun c => .str c.toString)
  | v => .error (.notCollection v.kind)

/-- The scopes that a collection holds. -/
def collect (v : Json) : Except Fault (List Scope) := do
  (← items v).mapM lookUp

/-- The scopes held by someone: a collection, but not a text, which is a single scope. -/
def held : Json → Except Fault (List Scope)
  | .str _ => .error .single
  | v => collect v

end Bearer.Scope
