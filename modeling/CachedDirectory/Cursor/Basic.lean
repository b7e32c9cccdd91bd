import CachedDirectory.Error

/-!
# Cursors

A cursor moves forward over entries. It begins before the first one; moving on
tells whether there is an entry, which can then be read. After the last entry it
is exhausted, and once closed it stays closed. Moving in any other way is not
supported.
-/

namespace CachedDirectory

/-- Where a cursor stands. -/
inductive Position (α : Type) where
  | before
  | on (item : α)
  | exhausted
  | closed
deriving DecidableEq, Repr

namespace Position

variable {α : Type}

/-- The error of using a closed cursor. -/
def closedError : DirectoryError :=
  .internal "cursor is closed"

/-- The entry at a position. -/
def get : Position α → Answer α
  | on item => .ok item
  | before => .error (.internal "cursor is not positioned, call next() first")
  | exhausted => .error (.internal "cursor is exhausted")
  | closed => .error closedError

/-- Whether the position is that of a closed cursor. -/
def isClosed : Position α → Bool
  | closed => true
  | _ => false

end Position

/-- A use of a cursor. -/
inductive CursorCall where
  | next
  | get
  | first
  | last
  | previous
  | absolute (index : Nat)
  | close
  | closeWithCause (cause : DirectoryError)
  | isClosed
  /-- Reads every entry that is left and closes the cursor, also if an entry
  cannot be had. -/
  | drain
deriving DecidableEq, Repr

/-- What a use of a cursor gives. -/
inductive CursorReply (α : Type) where
  | done
  | moved (found : Bool)
  | item (value : α)
  | items (values : List α)
deriving DecidableEq, Repr

/-- The error of moving in a way that is not supported. -/
def positioningError (operation : String) : DirectoryError :=
  .internal ("cursor does not support " ++ operation ++ "()")

/-- What a kind of cursor can do: move on, tell its position, and be closed. -/
structure CursorMethods (γ α : Type) where
  next : γ → Answer Bool × γ
  position : γ → Position α
  close : γ → γ
  /-- A bound on how often the cursor can still move on. -/
  extent : γ → Nat

namespace CursorMethods

variable {γ α : Type}

/-- Collects the entries that are left, in at most this many moves, and closes
the cursor. -/
def drainWithin (methods : CursorMethods γ α) : Nat → γ → Answer (List α) × γ
  | 0, cursor => (.ok [], methods.close cursor)
  | moves + 1, cursor =>
      match methods.next cursor with
      | (.ok true, moved) =>
          match (methods.position moved).get with
          | .ok item =>
              match methods.drainWithin moves moved with
              | (.ok items, drained) => (.ok (item :: items), drained)
              | (.error error, drained) => (.error error, drained)
          | .error error => (.error error, methods.close moved)
      | (.ok false, moved) => (.ok [], methods.close moved)
      | (.error error, moved) => (.error error, methods.close moved)

/-- Collects the entries that are left and closes the cursor. -/
def drain (methods : CursorMethods γ α) (cursor : γ) : Answer (List α) × γ :=
  methods.drainWithin (methods.extent cursor + 1) cursor

/-- Uses a cursor. -/
def perform (methods : CursorMethods γ α) (call : CursorCall) (cursor : γ) :
    Answer (CursorReply α) × γ :=
  match call with
  | .next =>
      let (answer, moved) := methods.next cursor
      (answer.map .moved, moved)
  | .get => ((methods.position cursor).get.map .item, cursor)
  | .first => (.error (positioningError "first"), cursor)
  | .last => (.error (positioningError "last"), cursor)
  | .previous => (.error (positioningError "previous"), cursor)
  | .absolute _ => (.error (positioningError "absolute"), cursor)
  | .close | .closeWithCause _ => (.ok .done, methods.close cursor)
  | .isClosed => (.ok .done, cursor)
  | .drain =>
      let (answer, drained) := methods.drain cursor
      (answer.map .items, drained)

/-- Whether a cursor is closed. -/
def isClosed (methods : CursorMethods γ α) (cursor : γ) : Bool :=
  (methods.position cursor).isClosed

/-- The answers to uses of a cursor, each with whether the cursor is closed
afterwards. -/
def answers (methods : CursorMethods γ α) :
    List CursorCall → γ → List (Answer (CursorReply α) × Bool)
  | [], _ => []
  | call :: rest, cursor =>
      let (answer, used) := methods.perform call cursor
      (answer, methods.isClosed used) :: methods.answers rest used

end CursorMethods

end CachedDirectory
