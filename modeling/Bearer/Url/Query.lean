import Bearer.Url.Form

/-!
# Queries

A query is a list of names, each once and with its values. Values are put to their name, which
stays at the place where it first came. Merging in new parameters replaces the values of the
names that are among them and leaves the others alone.

* `values_replace_self`, `values_merge_of_not_mem`: what merging does to the values of a name.
-/
namespace Bearer.Url

/-- The names of a query with their values. -/
abbrev Query := List (String × List String)

namespace Query

/-- The values of a name; none if it is not there. -/
def values (q : Query) (name : String) : List String :=
  match q.find? fun e => e.1 == name with
  | some e => e.2
  | none => []

/-- Whether a name is there. -/
def has (q : Query) (name : String) : Bool :=
  q.any fun e => e.1 == name

/-- A value put to its name. -/
def add : Query → Form.Param → Query
  | [], p => [(p.1, [p.2])]
  | e :: q, p => if e.1 = p.1 then (e.1, e.2 ++ [p.2]) :: q else e :: add q p

/-- The query of a list of parameters. -/
def ofParams (ps : List Form.Param) : Query :=
  ps.foldl add []

/-- The parameters of a query, those of a name together. -/
def params (q : Query) : List Form.Param :=
  q.flatMap fun e => e.2.map fun v => (e.1, v)

/-- The first value of a name. -/
def first? (q : Query) (name : String) : Option String :=
  (q.values name).head?

/-- A name given its values in place of its old ones, or put at the end. -/
def replace : Query → String × List String → Query
  | [], e => [e]
  | f :: q, e => if f.1 = e.1 then e :: q else f :: replace q e

/-- A query with another merged in. -/
def merge (old new : Query) : Query :=
  new.foldl replace old

theorem values_replace_self (q : Query) (e : String × List String) :
    (q.replace e).values e.1 = e.2 := by
  induction q with
  | nil => simp [replace, values]
  | cons f q ih =>
    by_cases h : f.1 = e.1
    · simp [replace, values, h]
    · simpa [replace, values, h] using ih

theorem values_replace_of_ne (q : Query) (e : String × List String) {name : String}
    (h : e.1 ≠ name) : (q.replace e).values name = q.values name := by
  induction q with
  | nil => simp [replace, values, h]
  | cons f q ih =>
    by_cases hf : f.1 = e.1
    · simp [replace, values, hf, h]
    · by_cases hn : f.1 = name
      · subst hn; simp [replace, values, hf]
      · simpa [replace, values, hf, hn] using ih

theorem values_merge_of_not_mem (new old : Query) {name : String} (h : ∀ e ∈ new, e.1 ≠ name) :
    (old.merge new).values name = old.values name := by
  induction new generalizing old with
  | nil => rfl
  | cons e new ih =>
    rw [merge, List.foldl_cons, ← merge, ih _ fun f hf => h f (List.mem_cons_of_mem _ hf)]
    exact values_replace_of_ne old e (h e List.mem_cons_self)

end Query

end Bearer.Url
