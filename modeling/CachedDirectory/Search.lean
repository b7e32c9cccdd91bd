import CachedDirectory.Filter.Evaluation

/-!
# Search requests

A search asks for the entities of one kind that match a filter, in the order of
their folded ids. A window skips the first of them and bounds how many are
returned.
-/

namespace CachedDirectory

/-- A part of an ordered result. -/
structure Window where
  /-- How many entries are skipped. -/
  offset : Nat
  /-- How many entries are returned at most. -/
  limit : Nat
deriving DecidableEq, Repr

namespace Window

/-- The entries in a window; all of them without one. -/
def cut {α : Type} (window : Option Window) (items : List α) : List α :=
  match window with
  | some ⟨offset, limit⟩ => (items.drop offset).take limit
  | none => items

end Window

/-- A search for entities of one kind. -/
structure SearchRequest where
  scope : EntityKind
  filter : Filter
  window : Option Window := none
deriving Repr

end CachedDirectory
