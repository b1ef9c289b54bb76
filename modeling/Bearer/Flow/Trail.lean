/-!
# Trails

What a flow leaves behind, in the order of time. Adding to a trail takes the same time however long
the trail is, so the newest comes first inside.

* `toList_add`: what is added stands at the end.
-/
namespace Bearer

/-- What was left behind. -/
structure Trail (α : Type) where
  /-- All of it, the newest first. -/
  newestFirst : List α := []
deriving DecidableEq, Repr

namespace Trail

variable {α : Type}

/-- The trail with one more at the end. -/
def add (t : Trail α) (a : α) : Trail α := ⟨a :: t.newestFirst⟩

/-- All of it, the oldest first. -/
def toList (t : Trail α) : List α := t.newestFirst.reverse

@[simp] theorem toList_add (t : Trail α) (a : α) : (t.add a).toList = t.toList ++ [a] := by
  simp [add, toList]

end Trail

end Bearer
