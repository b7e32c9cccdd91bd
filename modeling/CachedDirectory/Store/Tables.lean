import CachedDirectory.Entity.Basic
import CachedDirectory.Error
import CachedDirectory.Sql.Affinity

/-!
# The tables of the store

The store holds a row for every entity, a row for every membership edge and
named marks. A row of an entity keeps each text twice, as it was written and
folded, and counts how often it was written. Entity rows are told apart by kind
and key, edges by their three cells, marks by name.
-/

namespace CachedDirectory

open Text

/-- A row of the entity table. -/
structure EntityRow where
  kind : SqlValue
  key : SqlValue
  id : SqlValue
  description : SqlValue
  descriptionKey : SqlValue
  displayName : SqlValue
  displayNameKey : SqlValue
  firstName : SqlValue
  firstNameKey : SqlValue
  lastName : SqlValue
  lastNameKey : SqlValue
  email : SqlValue
  emailKey : SqlValue
  active : NumericCell
  version : Nat := 1
deriving DecidableEq, Repr

/-- A row of the membership table. -/
structure EdgeRow where
  groupKey : SqlValue
  memberKind : SqlValue
  memberKey : SqlValue
deriving DecidableEq, Repr

/-- A named mark. -/
structure MarkRow where
  name : SqlValue
  value : SqlValue
deriving DecidableEq, Repr

/-- The content of the store. -/
structure Tables where
  entities : List EntityRow := []
  edges : List EdgeRow := []
  marks : List MarkRow := []
deriving DecidableEq, Repr

/-- The key of an entity that may be stored; a blank id may not. -/
def storableKey (kind : EntityKind) (id : String) : Answer String :=
  if isBlank id then
    .error (.accessFailure
      ("refusing to store " ++ kind.name ++ " with an empty id"))
  else
    .ok (fold id)

namespace EntityRow

/-- The folded form of an optional text, as a cell. -/
def foldedCell (value : Option String) : SqlValue :=
  .ofText? (value.map fold)

/-- The row of a group, under a key. -/
def ofGroup (key : String) (group : Group) : EntityRow where
  kind := .text EntityKind.group.name
  key := .text key
  id := .text group.id
  description := .ofText? group.description
  descriptionKey := foldedCell group.description
  displayName := .null
  displayNameKey := .null
  firstName := .null
  firstNameKey := .null
  lastName := .null
  lastNameKey := .null
  email := .null
  emailKey := .null
  active := .empty

/-- The row of a user, under a key. -/
def ofUser (key : String) (user : User) : EntityRow where
  kind := .text EntityKind.user.name
  key := .text key
  id := .text user.id
  description := .null
  descriptionKey := .null
  displayName := .ofText? user.displayName
  displayNameKey := foldedCell user.displayName
  firstName := .ofText? user.firstName
  firstNameKey := foldedCell user.firstName
  lastName := .ofText? user.lastName
  lastNameKey := foldedCell user.lastName
  email := .ofText? user.email
  emailKey := foldedCell user.email
  active := .ofBool user.active

/-- The row that a group is stored as. -/
def ofGroup? (group : Group) : Answer EntityRow := do
  let key ← storableKey .group group.id
  return ofGroup key group

/-- The row that a user is stored as. -/
def ofUser? (user : User) : Answer EntityRow := do
  let key ← storableKey .user user.id
  return ofUser key user

/-- Whether two rows have the same place in the table. -/
def samePlace (left right : EntityRow) : Bool :=
  left.kind == right.kind && left.key == right.key

/-- The cell in which a column that does not come from edges is compared. -/
def comparable (row : EntityRow) : Column → SqlValue
  | .type => row.kind
  | .id => row.key
  | .description => row.descriptionKey
  | .displayName => row.displayNameKey
  | .firstName => row.firstNameKey
  | .lastName => row.lastNameKey
  | .email => row.emailKey
  | .active => row.active.received
  | .memberOf | .members => .null

end EntityRow

namespace EdgeRow

/-- The edge between a group and a member, given their keys. -/
def ofKeys (groupKey : String) (memberKind : MemberKind) (memberKey : String) :
    EdgeRow :=
  ⟨.text groupKey, .text memberKind.name, .text memberKey⟩

/-- The order of edges: by group, then by the kind of the member, then by
member. -/
def le (left right : EdgeRow) : Bool :=
  if left.groupKey == right.groupKey then
    if left.memberKind == right.memberKind then
      left.memberKey.le right.memberKey
    else
      left.memberKind.le right.memberKind
  else
    left.groupKey.le right.groupKey

end EdgeRow

namespace Tables

/-- The rows of a kind with a key; at most one, as they have the same place. -/
def entityRows (tables : Tables) (kind key : SqlValue) : List EntityRow :=
  tables.entities.filter fun row =>
    ((row.kind.equals kind).and (row.key.equals key)).isYes

/-- The rows of a kind. -/
def rowsOfKind (tables : Tables) (kind : SqlValue) : List EntityRow :=
  tables.entities.filter fun row => (row.kind.equals kind).isYes

/-- Whether an entity of a kind is stored under a key. -/
def holds (tables : Tables) (kind : EntityKind) (key : String) : Bool :=
  !(tables.entityRows (.text kind.name) (.text key)).isEmpty

/-- The tables with a row written: a row in the same place is replaced and its
count raised. -/
def upsertEntity (tables : Tables) (row : EntityRow) : Tables :=
  if tables.entities.any fun other => other.samePlace row then
    { tables with
      entities := tables.entities.map fun other =>
        if other.samePlace row then { row with version := other.version + 1 }
          else other }
  else
    { tables with entities := tables.entities ++ [{ row with version := 1 }] }

/-- The tables without the rows of a kind with a key. -/
def deleteEntity (tables : Tables) (kind key : SqlValue) : Tables :=
  { tables with
    entities := tables.entities.filter fun row =>
      !((row.kind.equals kind).and (row.key.equals key)).isYes }

/-- The tables without the rows of a kind. -/
def deleteKind (tables : Tables) (kind : SqlValue) : Tables :=
  { tables with
    entities :=
      tables.entities.filter fun row => !(row.kind.equals kind).isYes }

/-- The tables without entities. -/
def deleteEntities (tables : Tables) : Tables :=
  { tables with entities := [] }

/-- The tables with an edge, which is there once. -/
def upsertEdge (tables : Tables) (edge : EdgeRow) : Tables :=
  if tables.edges.contains edge then tables else
    { tables with edges := tables.edges ++ [edge] }

/-- The tables without the edges with a property. -/
def deleteEdgesWhere (tables : Tables) (property : EdgeRow → Truth) : Tables :=
  { tables with
    edges := tables.edges.filter fun edge => !(property edge).isYes }

/-- Whether an edge has these three cells. -/
def isEdge (groupKey memberKind memberKey : SqlValue) (edge : EdgeRow) :
    Truth :=
  ((edge.groupKey.equals groupKey).and (edge.memberKind.equals memberKind)).and
    (edge.memberKey.equals memberKey)

/-- Whether an edge has this member. -/
def hasMember (memberKind memberKey : SqlValue) (edge : EdgeRow) : Truth :=
  (edge.memberKind.equals memberKind).and (edge.memberKey.equals memberKey)

/-- Whether an edge has this group. -/
def hasGroup (groupKey : SqlValue) (edge : EdgeRow) : Truth :=
  edge.groupKey.equals groupKey

/-- Whether an edge has a member of this kind. -/
def hasMemberKind (memberKind : SqlValue) (edge : EdgeRow) : Truth :=
  edge.memberKind.equals memberKind

/-- The tables without edges. -/
def deleteEdges (tables : Tables) : Tables :=
  { tables with edges := [] }

/-- The edges that a member receives with the groups of another one. -/
def copiedEdges (tables : Tables) (memberKind sourceKey targetKey : SqlValue) :
    List EdgeRow :=
  (tables.edges.filter fun edge =>
    (hasMember memberKind sourceKey edge).isYes).map fun edge =>
    { edge with memberKey := targetKey }

/-- The tables after a member has received the groups of another one. -/
def copyEdges (tables : Tables) (memberKind sourceKey targetKey : SqlValue) :
    Tables :=
  (tables.copiedEdges memberKind sourceKey targetKey).foldl upsertEdge tables

/-- The values of the marks with a name. -/
def markValues (tables : Tables) (name : SqlValue) : List SqlValue :=
  (tables.marks.filter fun mark => (mark.name.equals name).isYes).map (·.value)

/-- The tables with a mark written; a mark of the same name is replaced. -/
def putMark (tables : Tables) (name value : SqlValue) : Tables :=
  if tables.marks.any fun mark => (mark.name.equals name).isYes then
    { tables with
      marks := tables.marks.map fun mark =>
        if (mark.name.equals name).isYes then { mark with value := value }
          else mark }
  else
    { tables with marks := tables.marks ++ [⟨name, value⟩] }

end Tables

/-- The mark that tells whether the store is complete. -/
def resetMark : String :=
  "reset_state"

/-- The value of the mark after a full synchronization. -/
def populatedState : String :=
  "populated"

/-- The value of the mark of a store that must be synchronized. -/
def resetState : String :=
  "reset"

namespace Tables

/-- Whether a reset is pending: a store is complete only if it is marked so. -/
def resetPending (tables : Tables) : Bool :=
  match (tables.markValues (.text resetMark)).head? with
  | some value => value.received != .text populatedState
  | none => true

/-- The tables with the mark set. -/
def setState (tables : Tables) (state : String) : Tables :=
  tables.putMark (.text resetMark) (.text state)

end Tables

end CachedDirectory
