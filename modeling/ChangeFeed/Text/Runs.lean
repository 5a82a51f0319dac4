/-
  ChangeFeed.Text.Runs — sequences as runs of equal items.

  A field may be padded far beyond what it holds.  A run says how often its
  item is repeated, so padding costs nothing before it is written out, and
  the length of the whole is known by then.
-/

namespace ChangeFeed

/-- An item, repeated. -/
structure Run (α : Type) where
  count : Nat
  item : α
deriving Repr

/-- Items in order, equal ones in a row taken together or not. -/
abbrev Runs (α : Type) := List (Run α)

namespace Runs

variable {α : Type}

/-- Every item on its own. -/
def ofList (xs : List α) : Runs α := xs.map fun x => ⟨1, x⟩

/-- All items, written out. -/
def toList (rs : Runs α) : List α := rs.flatMap fun r => List.replicate r.count r.item

/-- How many items there are. -/
def size (rs : Runs α) : Nat := rs.foldr (fun r n => r.count + n) 0

end Runs

end ChangeFeed
