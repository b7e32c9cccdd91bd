import CachedDirectory.Replica.Feed

/-!
# Reading from a replica

The fixed entities are answered without the store. Everything else is read from
the tables, and the groups that a member belongs to are remembered for the
generation in which they were found.
-/

namespace CachedDirectory

open Text

namespace Replica

/-- How many entities of a kind are stored. -/
def count (kind : EntityKind) : Action Replica Nat :=
  read fun tables => .ok (tables.rowsOfKind (.text kind.name)).length

/-- The stored entity of a kind with an id, whatever its spelling. -/
def storedEntity (converter : Converter) (kind : EntityKind) (id : String)
    (tables : Tables) :
    Answer Entity := do
  match ← tables.selectEntity (.text kind.name) (.text (fold id)) with
  | row :: _ => Entity.ofRow converter row
  | [] => .error (.notFound kind id)

/-- The entity of a kind with an id. -/
def lookup (kind : EntityKind) (id : String) : Action Replica Entity :=
  .observe fun replica =>
    if kind.isPersisted then
      replica.readTables >>= storedEntity replica.converter kind id
    else
      replica.fixed.lookup kind id

/-- A cursor over the entities that a search asks for. -/
def search (request : SearchRequest) : Action Replica (EntryCursor Entity) :=
  .observe fun replica =>
    if request.scope.isPersisted then do
      let condition ←
        request.filter.storedCondition request.scope replica.converter
      let source := searchSource replica.converter request.scope condition
      let feed ← PageFeed.start source request.window replica
      return .paged (.ofFeed feed)
    else do
      let entities ← replica.fixed.search replica.converter request
      return .listed (.ofList entities)

/-- A cursor over the edges whose ends are stored. -/
def memberships : Action Replica (EntryCursor Membership) :=
  .observe fun replica => do
    let feed ← PageFeed.start edgeSource none replica
    return .paged (.ofFeed feed)

/-- The groups that a stored member belongs to, directly or through groups. -/
def resolve (kind : MemberKind) (id : String) (tables : Tables) :
    Answer (List String) :=
  let key := fold id
  if tables.holds kind.entityKind key then
    let rows := tables.effectiveGroupRows (.text kind.name) (.text key)
    .ok (rows.filterMap fun row => row.id.received.text?)
  else
    .error (.notFound kind.entityKind id)

/-- The groups that a member belongs to, as they are remembered or else as they
are found. -/
def effectiveGroups (kind : MemberKind) (id : String) :
    Action Replica (List String) :=
  ⟨fun replica =>
    let key := (kind, fold id)
    let (remembered, memo) :=
      replica.memo.get replica.now key replica.generation
    let asked := { replica with memo := memo }
    match remembered with
    | some groups => (.ok groups, asked)
    | none =>
        match asked.readTables >>= resolve kind id with
        | .ok groups =>
            (.ok groups,
              { asked with
                memo := memo.insert replica.now key replica.generation groups })
        | .error error => (.error error, asked)⟩

end Replica

end CachedDirectory
