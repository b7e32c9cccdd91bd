import CachedDirectory.Replica.Session

/-!
# Keeping a replica in step

The calls by which a replica follows its authority. Each commits by itself: a
call that fails midway through a page leaves the rows before in place. Records
are copied as the authority has them now; an edge is stored only between
entities that are stored, and goes with them.
-/

namespace CachedDirectory

open Text

namespace Tables

/-- The tables without a group and the edges at it. -/
def dropGroup (tables : Tables) (key : SqlValue) : Tables :=
  let kind : SqlValue := .text EntityKind.group.name
  ((tables.deleteEdgesWhere (hasGroup key)).deleteEdgesWhere
    (hasMember kind key)).deleteEntity
    kind key

/-- The tables without groups, hence without edges. -/
def dropGroups (tables : Tables) : Tables :=
  tables.deleteEdges.deleteKind (.text EntityKind.group.name)

/-- The tables without a user and the edges at it. -/
def dropUser (tables : Tables) (key : SqlValue) : Tables :=
  let kind : SqlValue := .text EntityKind.user.name
  (tables.deleteEdgesWhere (hasMember kind key)).deleteEntity kind key

/-- The tables without users and the edges at them. -/
def dropUsers (tables : Tables) : Tables :=
  let kind : SqlValue := .text EntityKind.user.name
  (tables.deleteEdgesWhere (hasMemberKind kind)).deleteKind kind

/-- The tables without an edge. -/
def dropEdge (tables : Tables) (edge : EdgeRow) : Tables :=
  tables.deleteEdgesWhere (isEdge edge.groupKey edge.memberKind edge.memberKey)

/-- The tables without entities and edges, marked as incomplete. -/
def emptied (tables : Tables) : Tables :=
  tables.deleteEdges.deleteEntities.setState resetState

/-- Fails unless an entity of a kind is stored under the key of its id. -/
def requireEntity (tables : Tables) (kind : EntityKind) (key id : String) :
    Answer PUnit :=
  if tables.holds kind key then .ok ⟨⟩ else .error (.notFound kind id)

/-- The tables with an edge between entities that are stored. -/
def connectStored (edge : Membership) (groupKey memberKey : String)
    (tables : Tables) :
    Answer (PUnit × Tables) := do
  tables.requireEntity .group groupKey edge.groupId
  tables.requireEntity edge.memberKind.entityKind memberKey edge.memberId
  return (⟨⟩, tables.upsertEdge (.ofKeys groupKey edge.memberKind memberKey))

/-- The tables with a user that receives the groups of a stored one. -/
def upsertCopying (row : EntityRow) (source : String) (tables : Tables) :
    Answer (PUnit × Tables) := do
  let sourceKey := fold source
  tables.requireEntity .user sourceKey source
  let written := tables.upsertEntity row
  return (⟨⟩,
    written.copyEdges (.text MemberKind.user.name) (.text sourceKey) row.key)

end Tables

namespace EdgeRow

/-- The row of an edge. -/
def ofMembership (edge : Membership) : EdgeRow :=
  .ofKeys (fold edge.groupId) edge.memberKind (fold edge.memberId)

end EdgeRow

namespace Replica

/-- Whether a reset is pending. -/
def requireReset : Action Replica Bool :=
  .observe fun replica => do
    let tables ← replica.openTables
    return tables.resetPending

/-- Marks the tables as incomplete. -/
def markResetRequired : Action Replica PUnit :=
  update fun tables => tables.setState resetState

/-- Marks the tables as complete. -/
def markSynchronized : Action Replica PUnit :=
  update fun tables => tables.setState populatedState

/-- Forgets everything that is remembered. -/
def forget : Action Replica PUnit :=
  ⟨fun replica => (.ok ⟨⟩, { replica with memo := replica.memo.clear })⟩

/-- Empties the tables and marks them as incomplete. -/
def reset : Action Replica PUnit := do
  update Tables.emptied
  forget

/-- Stores the row of an entity. -/
def storeRow (row : EntityRow) : Action Replica PUnit :=
  update fun tables => tables.upsertEntity row

/-- Stores records one by one and counts them. -/
def storeAll {α : Type} (rowOf : α → Answer EntityRow) :
    List α → Action Replica Nat
  | [] => pure 0
  | record :: rest => do
      let row ← Action.ofAnswer (rowOf record)
      storeRow row
      let stored ← storeAll rowOf rest
      return stored + 1

/-- Stores an edge; both ends must be stored. -/
def upsertMembership (edge : Membership) : Action Replica PUnit := do
  let groupKey ← Action.ofAnswer (storableKey .group edge.groupId)
  let memberKey ←
    Action.ofAnswer (storableKey edge.memberKind.entityKind edge.memberId)
  write (Tables.connectStored edge groupKey memberKey)

/-- Removes a group and the edges at it. -/
def dropGroup (id : String) : Action Replica PUnit :=
  update fun tables => tables.dropGroup (.text (fold id))

/-- Removes a user and the edges at it. -/
def dropUser (id : String) : Action Replica PUnit :=
  update fun tables => tables.dropUser (.text (fold id))

/-- Removes an edge. -/
def dropMembership (edge : Membership) : Action Replica PUnit :=
  update fun tables => tables.dropEdge (.ofMembership edge)

/-- Removes entities and counts them. -/
def dropCounted (drop : Tables → Tables) : Action Replica Nat :=
  write fun tables =>
    let dropped := drop tables
    .ok (tables.entities.length - dropped.entities.length, dropped)

/-- Removes all groups and all edges and counts the groups. -/
def dropAllGroups : Action Replica Nat :=
  dropCounted Tables.dropGroups

/-- Removes all users and the edges at them and counts the users. -/
def dropAllUsers : Action Replica Nat :=
  dropCounted Tables.dropUsers

/-- All edges whose ends are stored. -/
def allMemberships : Action Replica (List Membership) :=
  .observe fun replica => do
    let cursor ← (memberships.run replica).1
    cursor.drain replica

end Replica

namespace Session

variable {α : Type} [Authority α]

/-- The group that the authority has under an id. -/
def fetchGroup (id : String) : Action (Session α) Group := do
  match ← ask (Authority.group id) with
  | some group => return group
  | none => Action.fail (.notFound .group id)

/-- The user that the authority has under an id. -/
def fetchUser (id : String) : Action (Session α) User := do
  match ← ask (Authority.user id) with
  | some user => return user
  | none => Action.fail (.notFound .user id)

/-- Copies a group. -/
def upsertGroup (id : String) : Action (Session α) PUnit := do
  let group ← fetchGroup id
  let row ← Action.ofAnswer (EntityRow.ofGroup? group)
  onReplica (Replica.storeRow row)

/-- Copies a user. -/
def upsertUser (id : String) : Action (Session α) PUnit := do
  let user ← fetchUser id
  let row ← Action.ofAnswer (EntityRow.ofUser? user)
  onReplica (Replica.storeRow row)

/-- Copies a user and gives it the groups of a stored one. -/
def upsertUserCopyingGroups (id source : String) :
    Action (Session α) PUnit := do
  let user ← fetchUser id
  let row ← Action.ofAnswer (EntityRow.ofUser? user)
  onReplica (Replica.write (Tables.upsertCopying row source))

/-- Copies the groups from a position on, up to a number of them, and counts
them. -/
def upsertGroupsPage (length position : Nat) : Action (Session α) Nat :=
  if length = 0 then
    pure 0
  else do
    let groups ← ask (Authority.groups position length)
    onReplica (Replica.storeAll EntityRow.ofGroup? (groups.take length))

/-- Copies the users from a position on, up to a number of them, and counts
them. -/
def upsertUsersPage (length position : Nat) : Action (Session α) Nat :=
  if length = 0 then
    pure 0
  else do
    let users ← ask (Authority.users position length)
    onReplica (Replica.storeAll EntityRow.ofUser? (users.take length))

/-- The number of rounds for a loop over the pages of the authority. -/
def rounds (session : Session α) : Nat :=
  2 * Authority.extent session.authority + 8

/-- Copies all groups and counts them. -/
def upsertAllGroups (session : Session α) : Option (Answer Nat) × Session α :=
  pageThrough (upsertGroupsPage session.replica.pageSize)
    session.replica.pageSize session.rounds 0
    session

/-- Copies all users and counts them. -/
def upsertAllUsers (session : Session α) : Option (Answer Nat) × Session α :=
  pageThrough (upsertUsersPage session.replica.pageSize)
    session.replica.pageSize session.rounds 0
    session

end Session

/-- A call that keeps a replica in step. -/
inductive SyncCall where
  | requireReset
  | markResetRequired
  | reset
  | markSynchronized
  | upsertGroup (id : String)
  | upsertGroupsPage (position length : Nat)
  | upsertAllGroups
  | upsertUser (id : String)
  | upsertUserCopyingGroups (id source : String)
  | upsertUsersPage (position length : Nat)
  | upsertAllUsers
  | upsertMembership (edge : Membership)
  | dropGroup (id : String)
  | dropAllGroups
  | dropUser (id : String)
  | dropAllUsers
  | dropMembership (edge : Membership)
  | memberships
deriving DecidableEq, Repr

/-- What such a call gives. -/
inductive SyncReply where
  | done
  | flag (value : Bool)
  | count (number : Nat)
  | edges (edges : List Membership)
deriving DecidableEq, Repr

namespace SyncCall

variable {α : Type} [Authority α]

/-- An action that takes one round. -/
def once {β : Type} (reply : β → SyncReply) (action : Action (Session α) β)
    (session : Session α) : Option (Answer SyncReply) × Session α :=
  let (answer, after) := action.run session
  (some (answer.map reply), after)

/-- An action on the replica alone. -/
def withReplica {β : Type} (reply : β → SyncReply) (action : Action Replica β)
    (session : Session α) : Option (Answer SyncReply) × Session α :=
  once reply (Session.onReplica action) session

/-- Runs a call. It has no answer if it goes through the pages of an authority
that has not come to an end after all rounds. -/
def run (session : Session α) : SyncCall → Option (Answer SyncReply) × Session α
  | requireReset => withReplica .flag Replica.requireReset session
  | markResetRequired =>
      withReplica (fun _ => .done) Replica.markResetRequired session
  | reset => withReplica (fun _ => .done) Replica.reset session
  | markSynchronized =>
      withReplica (fun _ => .done) Replica.markSynchronized session
  | upsertGroup id => once (fun _ => .done) (Session.upsertGroup id) session
  | upsertGroupsPage position length =>
      once .count (Session.upsertGroupsPage length position) session
  | upsertAllGroups =>
      let (answer, after) := session.upsertAllGroups
      (answer.map fun counted => counted.map .count, after)
  | upsertUser id => once (fun _ => .done) (Session.upsertUser id) session
  | upsertUserCopyingGroups id source =>
      once (fun _ => .done) (Session.upsertUserCopyingGroups id source) session
  | upsertUsersPage position length =>
      once .count (Session.upsertUsersPage length position) session
  | upsertAllUsers =>
      let (answer, after) := session.upsertAllUsers
      (answer.map fun counted => counted.map .count, after)
  | upsertMembership edge =>
      withReplica (fun _ => .done) (Replica.upsertMembership edge) session
  | dropGroup id => withReplica (fun _ => .done) (Replica.dropGroup id) session
  | dropAllGroups => withReplica .count Replica.dropAllGroups session
  | dropUser id => withReplica (fun _ => .done) (Replica.dropUser id) session
  | dropAllUsers => withReplica .count Replica.dropAllUsers session
  | dropMembership edge =>
      withReplica (fun _ => .done) (Replica.dropMembership edge) session
  | memberships => withReplica .edges Replica.allMemberships session

/-- The reply of a directory that is always live, to which every call does
nothing. -/
def idleReply : SyncCall → SyncReply
  | requireReset => .flag false
  | upsertGroupsPage _ _ | upsertAllGroups | upsertUsersPage _ _
  | upsertAllUsers | dropAllGroups | dropAllUsers => .count 0
  | memberships => .edges []
  | markResetRequired | reset | markSynchronized | upsertGroup _ | upsertUser _
  | upsertUserCopyingGroups _ _ | upsertMembership _ | dropGroup _ | dropUser _
  | dropMembership _ => .done

end SyncCall

end CachedDirectory
