import CachedDirectory.Cursor.Basic

/-!
# Cursors over feeds

A stream cursor takes its entries one by one from a feed, which may fail. The
first failure is returned once, the feed is dropped with it, and the cursor is
exhausted.
-/

namespace CachedDirectory

/-- A cursor over a feed. -/
structure StreamCursor (φ α : Type) where
  /-- What is still to come; dropped when the cursor is closed or has reached
  its end. -/
  feed : Option φ
  position : Position α := .before
deriving DecidableEq, Repr

namespace StreamCursor

variable {φ α : Type}

/-- A cursor before the first entry of a feed. -/
def ofFeed (feed : φ) : StreamCursor φ α :=
  ⟨some feed, .before⟩

/-- Moves to the next entry that `pull` takes from the feed, and tells whether
there is one. -/
def next (pull : φ → Option (Answer α × φ)) (cursor : StreamCursor φ α) :
    Answer Bool × StreamCursor φ α :=
  match cursor.position with
  | .closed => (.error Position.closedError, cursor)
  | .exhausted => (.ok false, cursor)
  | .before | .on _ =>
      match cursor.feed.bind pull with
      | some (.ok item, rest) => (.ok true, ⟨some rest, .on item⟩)
      | some (.error error, _) => (.error error, ⟨none, .exhausted⟩)
      | none => (.ok false, ⟨none, .exhausted⟩)

/-- The closed cursor; the feed is dropped. -/
def close (_ : StreamCursor φ α) : StreamCursor φ α :=
  ⟨none, .closed⟩

/-- Stream cursors as cursors, given how a feed is read and a bound on how much
it still gives. -/
def methods (pull : φ → Option (Answer α × φ)) (extent : φ → Nat) :
    CursorMethods (StreamCursor φ α) α where
  next := next pull
  position := position
  close := close
  extent cursor := (cursor.feed.map extent).getD 0

/-- Takes the first of a list of messages. -/
def pullMessage : List (Answer α) → Option (Answer α × List (Answer α))
  | [] => none
  | message :: rest => some (message, rest)

/-- Stream cursors over a list of messages. -/
def messageMethods : CursorMethods (StreamCursor (List (Answer α)) α) α :=
  methods pullMessage List.length

end StreamCursor

end CachedDirectory
