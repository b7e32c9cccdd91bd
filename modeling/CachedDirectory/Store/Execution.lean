import CachedDirectory.Sql.Outcome
import CachedDirectory.Store.Selection

/-!
# Running the catalogue

Every statement of the catalogue is an operation on the tables, given the values
bound to its names. It changes a number of rows or gives rows back. A value
enters a column by the column's affinity, and a column that must hold something
refuses an empty value. Within a block of statements the number of rows that
were changed last is kept, and a statement that only reads leaves it.
-/

namespace CachedDirectory

/-- What a statement did. -/
structure Effect where
  /-- How many rows it changed; none if it only reads. -/
  changed : Option Nat := none
  rows : List ResultRow := []
deriving DecidableEq, Repr

namespace Effect

/-- How many rows were changed last, given how many it were before. -/
def lastChanged (effect : Effect) (before : Nat) : Nat :=
  effect.changed.getD before

/-- The effect as the outcome that a caller wants, given how many rows were
changed before. -/
def outcome (effect : Effect) (before : Nat) : OutcomeKind → Outcome
  | .update => .updated (effect.lastChanged before)
  | .scalar => .scalar (effect.rows.head?.bind ResultRow.first?)
  | .row => .row effect.rows.head?
  | .rows => .rows ⟨effect.rows⟩

/-- The effect of reading rows. -/
def read (rows : List ResultRow) : Effect :=
  { rows := rows }

/-- The effect of reading a count. -/
def count (n : Nat) : Effect :=
  read [⟨[("n", .integer n)]⟩]

/-- The effect of changing rows. -/
def change (n : Nat) : Effect :=
  { changed := n }

end Effect

namespace Clause

/-- A value that enters a text column. -/
def textCell (arg : String → SqlValue) (name : String) : SqlValue :=
  (arg name).asText

/-- A value for a column that must hold something. -/
def filledCell (table column : String) (value : SqlValue) : Answer SqlValue :=
  if value.isNull then
    .error
      (.accessFailure
        ("error returned from database: (code: 1299) NOT NULL constraint failed: " ++
          table ++ "." ++ column))
  else
    .ok value

/-- The entity row that the bound values describe. -/
def boundEntity (arg : String → SqlValue) : Answer EntityRow := do
  let kind ←
    filledCell "cache_entities" "entity_type" (textCell arg "entity_type")
  let key ← filledCell "cache_entities" "id_key" (textCell arg "id_key")
  let id ← filledCell "cache_entities" "id" (textCell arg "id")
  let _ ← filledCell "cache_entities" "synced_at" (arg "synced_at")
  return {
    kind := kind
    key := key
    id := id
    description := textCell arg "description"
    descriptionKey := textCell arg "description_key"
    displayName := textCell arg "display_name"
    displayNameKey := textCell arg "display_name_key"
    firstName := textCell arg "first_name"
    firstNameKey := textCell arg "first_name_key"
    lastName := textCell arg "last_name"
    lastNameKey := textCell arg "last_name_key"
    email := textCell arg "email"
    emailKey := textCell arg "email_key"
    active := .ofValue (arg "active")
  }

/-- The edge that the bound values describe. -/
def boundEdge (arg : String → SqlValue) : Answer EdgeRow := do
  let groupKey ←
    filledCell "cache_memberships" "group_key" (textCell arg "group_key")
  let memberKind ←
    filledCell "cache_memberships" "member_type" (textCell arg "member_type")
  let memberKey ←
    filledCell "cache_memberships" "member_key" (textCell arg "member_key")
  let _ ← filledCell "cache_memberships" "synced_at" (arg "synced_at")
  return ⟨groupKey, memberKind, memberKey⟩

/-- The length of a page; a negative number does not bound it. -/
def pageLimit (value : SqlValue) : Answer (Option Nat) :=
  match NumericCell.ofValue value with
  | .plain (.integer n) => .ok (if n < 0 then none else some n.toNat)
  | _ =>
      .error (.accessFailure
        "error returned from database: (code: 20) datatype mismatch")

/-- A page of edges, of the length that was bound. -/
def boundPage (arg : String → SqlValue) (tables : Tables)
    (after : Option EdgeKey) :
    Answer Effect := do
  let limit ← pageLimit (arg "limit")
  return .read (tables.membershipPage after limit)

/-- The effect of deleting rows, told from the tables before and after. -/
def deletion (before after : Tables) : Effect × Tables :=
  (.change
    (before.entities.length - after.entities.length +
      (before.edges.length - after.edges.length)),
    after)

/-- Runs a statement of the catalogue. -/
def run (arg : String → SqlValue) (tables : Tables) :
    Clause → Answer (Effect × Tables)
  | entityUpsert => do
      let row ← boundEntity arg
      return (.change 1, tables.upsertEntity row)
  | entitySelect => do
      let rows ←
        tables.selectEntity (textCell arg "entity_type") (textCell arg "id_key")
      return (.read rows, tables)
  | entityExists =>
      .ok
        (.count
          (tables.entityRows (textCell arg "entity_type")
            (textCell arg "id_key")).length, tables)
  | entityCount =>
      .ok (.count (tables.rowsOfKind (textCell arg "entity_type")).length,
        tables)
  | entityDelete =>
      .ok
        (deletion tables
          (tables.deleteEntity (textCell arg "entity_type")
            (textCell arg "id_key")))
  | entityDeleteType =>
      .ok (deletion tables (tables.deleteKind (textCell arg "entity_type")))
  | entityDeleteAll => .ok (deletion tables tables.deleteEntities)
  | membershipUpsert => do
      let edge ← boundEdge arg
      return (.change 1, tables.upsertEdge edge)
  | membershipDelete =>
      .ok
        (deletion tables
          (tables.deleteEdgesWhere
            (Tables.isEdge (textCell arg "group_key")
              (textCell arg "member_type")
              (textCell arg "member_key"))))
  | membershipDeleteMember =>
      .ok
        (deletion tables
          (tables.deleteEdgesWhere
            (Tables.hasMember (textCell arg "member_type")
              (textCell arg "member_key"))))
  | membershipDeleteGroup =>
      .ok
        (deletion tables
          (tables.deleteEdgesWhere
          (Tables.hasGroup (textCell arg "group_key"))))
  | membershipDeleteMemberType =>
      .ok
        (deletion tables
          (tables.deleteEdgesWhere
            (Tables.hasMemberKind (textCell arg "member_type"))))
  | membershipDeleteAll => .ok (deletion tables tables.deleteEdges)
  | membershipCopy => do
      let memberKind := textCell arg "member_type"
      let sourceKey := textCell arg "source_key"
      let targetKey := textCell arg "target_key"
      if !(tables.copiedEdges memberKind sourceKey targetKey).isEmpty then
        let _ ← filledCell "cache_memberships" "member_key" targetKey
        let _ ← filledCell "cache_memberships" "synced_at" (arg "synced_at")
      let after := tables.copyEdges memberKind sourceKey targetKey
      return (.change (after.edges.length - tables.edges.length), after)
  | membershipPage => do
      let effect ← boundPage arg tables none
      return (effect, tables)
  | membershipPageAfter => do
      let key : EdgeKey :=
        ⟨textCell arg "group_key", textCell arg "member_type",
          textCell arg "member_key"⟩
      let effect ← boundPage arg tables (some key)
      return (effect, tables)
  | membershipEffectiveGroups =>
      let found :=
        tables.effectiveGroupRows (textCell arg "member_type")
          (textCell arg "member_key")
      .ok (.read (found.map fun row => ⟨[("id", row.id.received)]⟩), tables)
  | metaGet =>
      let found := tables.markValues (textCell arg "name")
      .ok (.read (found.map fun value => ⟨[("value", value.received)]⟩), tables)
  | metaPut => do
      let value ← filledCell "cache_meta" "value" (textCell arg "value")
      return (.change 1, tables.putMark (textCell arg "name") value)

end Clause

/-- Under which access a block of statements runs. -/
inductive Access where
  | read
  | write
deriving DecidableEq, Repr

namespace Access

/-- The name of an access. -/
def name : Access → String
  | read => "Read"
  | write => "Write"

end Access

/-- A statement of a block: which one, with which values, and what is wanted
from it. -/
structure BlockStatement where
  clause : String
  kind : OutcomeKind
  bindings : List (String × SqlValue)
deriving DecidableEq, Repr

/-- Where a block of statements stands. -/
structure BlockState where
  tables : Tables
  /-- How many rows the last statement changed that was to change any. -/
  changed : Nat := 0
deriving DecidableEq, Repr

namespace BlockStatement

/-- The statement with its values bound. -/
def bound (step : BlockStatement) (statement : Statement) : Statement :=
  step.bindings.foldl (fun bound (name, value) => bound.bind name value)
    statement

/-- Runs a statement of a block. Updates need write access, and every
placeholder needs a value. -/
def run (dialect : Dialect) (access : Access) (step : BlockStatement)
    (state : BlockState) :
    Answer (Outcome × BlockState) := do
  match Clause.ofName? step.clause with
  | none => .error (.internal ("unknown query clause '" ++ step.clause ++ "'"))
  | some clause =>
      if step.kind = .update ∧ access = .read then
        .error (.internal "update statement issued under read access")
      else
        let statement := step.bound (clause.statement dialect)
        let _ ← statement.compile
        let (effect, after) ← clause.run statement.value state.tables
        return (effect.outcome state.changed step.kind,
          ⟨after, effect.lastChanged state.changed⟩)

/-- Runs the statements of a block one after the other; the first failure ends
the block. -/
def runAll (dialect : Dialect) (access : Access) :
    List BlockStatement → BlockState → Answer (List Outcome × BlockState)
  | [], state => .ok ([], state)
  | step :: rest, state => do
      let (outcome, after) ← step.run dialect access state
      let (outcomes, final) ← runAll dialect access rest after
      return (outcome :: outcomes, final)

end BlockStatement

end CachedDirectory
