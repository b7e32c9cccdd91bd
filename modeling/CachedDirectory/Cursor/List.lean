import CachedDirectory.Cursor.Basic

/-!
# Cursors over lists

A list cursor moves over entries that are all there already.
-/

namespace CachedDirectory

/-- A cursor over a list. -/
structure ListCursor (α : Type) where
  remaining : List α
  position : Position α := .before
deriving DecidableEq, Repr

namespace ListCursor

variable {α : Type}

/-- A cursor before the first entry of a list. -/
def ofList (items : List α) : ListCursor α :=
  ⟨items, .before⟩

/-- Moves to the next entry and tells whether there is one. -/
def next (cursor : ListCursor α) : Answer Bool × ListCursor α :=
  if cursor.position.isClosed then
    (.error Position.closedError, cursor)
  else
    match cursor.remaining with
    | item :: rest => (.ok true, ⟨rest, .on item⟩)
    | [] => (.ok false, ⟨[], .exhausted⟩)

/-- The closed cursor; what was left is gone. -/
def close (_ : ListCursor α) : ListCursor α :=
  ⟨[], .closed⟩

/-- List cursors as cursors. -/
def methods : CursorMethods (ListCursor α) α where
  next := next
  position := position
  close := close
  extent cursor := cursor.remaining.length

end ListCursor

end CachedDirectory
