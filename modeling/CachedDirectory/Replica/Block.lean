import CachedDirectory.Replica.Basic

/-!
# Blocks of statements

A block of statements runs under read or write access, on the replica or
directly on its store. Its changes are kept if all statements succeed and the
block itself does not give up. On the replica a read block waits for a pending
reset, and a write block counts as one change.
-/

namespace CachedDirectory

/-- On what a block of statements runs. -/
inductive BlockTarget where
  | replica
  | store
deriving DecidableEq, Repr

/-- A block of statements. -/
structure Block where
  target : BlockTarget
  access : Access
  statements : List BlockStatement
  /-- Whether the block gives up after its statements. -/
  givesUp : Bool
deriving DecidableEq, Repr

namespace Block

/-- The error of a block that gives up. -/
def abandoned : DirectoryError :=
  .internal "abort"

/-- The tables on which the block runs. -/
def tables (block : Block) (replica : Replica) : Answer Tables :=
  match block.target, block.access with
  | .replica, .read => replica.readTables
  | _, _ => replica.openTables

/-- The outcomes of the statements and the tables after them. -/
def outcomes (block : Block) (dialect : Dialect) (tables : Tables) :
    Answer (List Outcome × Tables) := do
  let (outcomes, final) ←
    BlockStatement.runAll dialect block.access block.statements ⟨tables, 0⟩
  if block.givesUp then
    .error abandoned
  else
    return (outcomes, final.tables)

/-- The replica with the tables that a block left. -/
def commit (block : Block) (tables : Tables) (replica : Replica) : Replica :=
  let changed := { replica with tables := tables }
  match block.target, block.access with
  | .replica, .write => { changed with generation := replica.generation + 1 }
  | _, _ => changed

/-- Runs a block; if it fails, nothing is changed. -/
def run (block : Block) : Action Replica (List Outcome) :=
  ⟨fun replica =>
    match block.tables replica >>= block.outcomes replica.dialect with
    | .ok (outcomes, tables) => (.ok outcomes, block.commit tables replica)
    | .error error => (.error error, replica)⟩

end Block

end CachedDirectory
