import CachedDirectory.Cursor.List
import CachedDirectory.Cursor.Stream
import CachedDirectory.Replica.Basic

/-!
# Feeds of a replica

A feed reads the rows of an ordered result page by page, each page when it is
needed and from the tables as they are then. A page begins after the last row of
the page before, so changes in between neither repeat nor hide a row that they
do not touch. The first page is read when the feed is opened.
-/

namespace CachedDirectory

/-- An ordered result that can be read in pages. -/
structure PageSource (α : Type) where
  /-- The rows in a window of those that come after a row. -/
  page : Option ResultRow → Window → Tables → Answer (List ResultRow)
  /-- What a row stands for. -/
  decode : ResultRow → Answer α

/-- What is left of a result that is read in pages. -/
structure PageFeed (α : Type) where
  source : PageSource α
  /-- How many rows are read at once. -/
  pageLength : Nat
  /-- The rows that were read and are still to be given. -/
  waiting : List ResultRow
  /-- The last row that was read. -/
  last : Option ResultRow
  /-- How many rows may be read at most, if that is bounded. -/
  allowance : Option Nat
  /-- How many rows the next page has at most; none if there is no next page. -/
  following : Option Nat

namespace PageFeed

variable {α : Type}

/-- The length of a page if so many rows may still be read. -/
def lengthWithin (pageLength : Nat) (allowance : Option Nat) : Nat :=
  match allowance with
  | some rows => min rows pageLength
  | none => pageLength

/-- The feed after a page was read for which a number of rows was asked. It is
the last one if it is shorter, or if nothing more may be read. -/
def turn (feed : PageFeed α) (asked : Nat) (rows : List ResultRow) :
    PageFeed α :=
  let allowance := feed.allowance.map (· - rows.length)
  let length := lengthWithin feed.pageLength allowance
  { feed with
    waiting := rows
    last := rows.getLast?
    allowance := allowance
    following :=
      if rows.length < asked ∨ length = 0 then none else some length }

/-- The feed of a result in a window. If the window is empty nothing is read. -/
def start (source : PageSource α) (window : Option Window) (replica : Replica) :
    Answer (PageFeed α) := do
  let allowance := window.map (·.limit)
  let fresh : PageFeed α :=
    ⟨source, replica.bufferSize, [], none, allowance, none⟩
  let length := lengthWithin replica.bufferSize allowance
  if length = 0 then
    return fresh
  else
    let tables ← replica.readTables
    let offset := (window.map (·.offset)).getD 0
    let rows ← source.page none ⟨offset, length⟩ tables
    return fresh.turn length rows

/-- Takes the next of the rows that were read. -/
def take? (feed : PageFeed α) : Option (Answer α × PageFeed α) :=
  match feed.waiting with
  | [] => none
  | row :: rest => some (feed.source.decode row, { feed with waiting := rest })

/-- Takes the next row, from the next page if need be. -/
def pull (replica : Replica) (feed : PageFeed α) :
    Option (Answer α × PageFeed α) :=
  match feed.waiting, feed.following with
  | _ :: _, _ => feed.take?
  | [], none => none
  | [], some length =>
      match replica.readTables >>= feed.source.page feed.last ⟨0, length⟩ with
      | .ok rows => (feed.turn length rows).take?
      | .error error => some (.error error, feed)

/-- A bound on how many rows a feed still gives while the tables stay as they
are: as many as it may still read, or else as many as there are. -/
def extent (replica : Replica) (feed : PageFeed α) : Nat :=
  let tables := replica.tables
  feed.waiting.length +
    feed.allowance.getD (tables.entities.length + tables.edges.length)

end PageFeed

/-- The rows of a search, in the order of their keys. -/
def searchSource (converter : Converter) (scope : EntityKind)
    (condition : Condition) :
    PageSource Entity where
  page last window tables :=
    SearchPage.rows
      ⟨scope, condition, last.bind fun row => row.text? "id_key", window⟩ tables
  decode := Entity.ofRow converter

/-- The key of the edge that a row describes. -/
def EdgeKey.ofRow? (row : ResultRow) : Option EdgeKey := do
  let groupKey ← row.text? "group_key"
  let memberKind ← row.text? "member_type"
  let memberKey ← row.text? "member_key"
  return ⟨.text groupKey, .text memberKind, .text memberKey⟩

/-- The edges in their order. -/
def edgeSource : PageSource Membership where
  page last window tables :=
    .ok
      (tables.membershipPage (last.bind EdgeKey.ofRow?)
        (some (min window.limit SqlValue.maxInteger)))
  decode := Membership.ofRow

/-- A cursor over entries of a replica: over entries that are there, or over
pages. -/
inductive EntryCursor (α : Type) where
  | listed (cursor : ListCursor α)
  | paged (cursor : StreamCursor (PageFeed α) α)

namespace EntryCursor

variable {α : Type}

/-- Paged cursors as cursors, over the tables as they are. -/
def pageMethods (replica : Replica) :
    CursorMethods (StreamCursor (PageFeed α) α) α :=
  StreamCursor.methods (PageFeed.pull replica) (PageFeed.extent replica)

/-- Uses a cursor while the replica is as given. -/
def perform (replica : Replica) (call : CursorCall) :
    EntryCursor α → Answer (CursorReply α) × EntryCursor α
  | listed cursor =>
      let (answer, used) := ListCursor.methods.perform call cursor
      (answer, listed used)
  | paged cursor =>
      let (answer, used) := (pageMethods replica).perform call cursor
      (answer, paged used)

/-- Whether a cursor is closed. -/
def isClosed : EntryCursor α → Bool
  | listed cursor => cursor.position.isClosed
  | paged cursor => cursor.position.isClosed

/-- The entries that are left, read at one go. -/
def drain (replica : Replica) : EntryCursor α → Answer (List α)
  | listed cursor => (ListCursor.methods.drain cursor).1
  | paged cursor => ((pageMethods replica).drain cursor).1

end EntryCursor

end CachedDirectory
