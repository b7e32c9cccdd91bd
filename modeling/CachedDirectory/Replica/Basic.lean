import CachedDirectory.Action
import CachedDirectory.Memo.Resolution
import CachedDirectory.Namespace
import CachedDirectory.Store.Decoding
import CachedDirectory.Store.Execution

/-!
# Replicas

A replica answers from the tables of its store. It refuses to as long as a reset
is pending, and when its store is closed. The generation counts the changes that
were committed through the replica; what was resolved for an earlier generation
is not used again.
-/

namespace CachedDirectory

/-- A replica and its store. -/
structure Replica where
  tables : Tables
  dialect : Dialect
  /-- The fixed entities. -/
  fixed : Namespace
  converter : Converter
  /-- How many records are asked for at once when all are copied. -/
  pageSize : Nat
  /-- How many rows a cursor reads at once, which is also the length of its
  channel. It is taken to be within the bound of a channel, beyond which the
  opening of a cursor is aborted. -/
  bufferSize : Nat
  /-- The groups that members were found to belong to. -/
  memo : ResolutionMemo (MemberKind × String) (List String)
  /-- How many changes were committed. The number is one of 64 bits, and fewer
  than `2 ^ 64` changes are taken for granted. -/
  generation : Nat := 0
  isOpen : Bool := true
  /-- The time in nanoseconds. -/
  now : Nat := 0

namespace Replica

/-- A replica over the content of a store. -/
def connect (settings : Settings) (converter : Converter) (tables : Tables) :
    Answer Replica := do
  let dialect ← Dialect.ofUrl settings.sqlUrl
  return {
    tables := tables
    dialect := dialect
    fixed := Namespace.ofSettings settings.fixed
    converter := converter
    pageSize := max settings.syncPageSize 1
    bufferSize := max settings.cursorBuffer 1
    memo :=
      .empty settings.memoEntries (settings.memoAgeSeconds * RetryPolicy.second)
  }

/-- The replica with its store closed. -/
def close (replica : Replica) : Replica :=
  { replica with isOpen := false }

/-- The replica after some seconds. -/
def advance (seconds : Nat) (replica : Replica) : Replica :=
  { replica with now := replica.now + seconds * RetryPolicy.second }

/-- The error of using a closed store. -/
def closedStore : DirectoryError :=
  .accessFailure "attempted to acquire a connection on a closed pool"

/-- The tables, unless the store is closed. -/
def openTables (replica : Replica) : Answer Tables :=
  if replica.isOpen then .ok replica.tables else .error closedStore

/-- The tables as readers may see them. -/
def readTables (replica : Replica) : Answer Tables := do
  let tables ← replica.openTables
  if tables.resetPending then
    .error .resetRequired
  else
    return tables

/-- What is read from the tables. -/
def read {α : Type} (find : Tables → Answer α) : Action Replica α :=
  .observe fun replica => replica.readTables >>= find

/-- Changes the tables and commits the change; if it fails, nothing is
changed. -/
def write {α : Type} (change : Tables → Answer (α × Tables)) :
    Action Replica α :=
  ⟨fun replica =>
    match replica.openTables >>= change with
    | .ok (value, tables) =>
        (.ok value,
          { replica with
            tables := tables, generation := replica.generation + 1 })
    | .error error => (.error error, replica)⟩

/-- A change of the tables that cannot fail. -/
def update (change : Tables → Tables) : Action Replica PUnit :=
  write fun tables => .ok (⟨⟩, change tables)

end Replica

end CachedDirectory
