import CachedDirectory.Authority.Basic
import CachedDirectory.Authority.Register
import CachedDirectory.Text.Order

/-!
# Rosters

A roster is an authority that holds its records and edges in memory. A record
replaces an earlier one with the same folded id, and an edge that is there
already keeps its first spelling. Records are listed in the order of their
folded ids, with the ids at the other ends of their edges filled in.
-/

namespace CachedDirectory

open Text

/-- Records and edges in memory. -/
structure Roster where
  /-- The groups under their folded ids. -/
  groupRecords : Register Group := ∅
  /-- The users under their folded ids. -/
  userRecords : Register User := ∅
  /-- The edges, no two with the same ends. -/
  edges : List Membership := []
  /-- Whether the credentials are rejected. -/
  isDenied : Bool := false
deriving DecidableEq, Repr

namespace Roster

/-- The roster with a group put in. -/
def putGroup (roster : Roster) (group : Group) : Roster :=
  { roster with
    groupRecords := roster.groupRecords.insert (fold group.id) group }

/-- The roster with a user put in. -/
def putUser (roster : Roster) (user : User) : Roster :=
  { roster with userRecords := roster.userRecords.insert (fold user.id) user }

/-- The roster with an edge added. -/
def addEdge (roster : Roster) (edge : Membership) : Roster :=
  if roster.edges.any fun other => other.same edge then
    roster
  else
    { roster with edges := roster.edges ++ [edge] }

/-- The roster without an edge. -/
def removeEdge (roster : Roster) (edge : Membership) : Roster :=
  { roster with edges := roster.edges.filter fun other => !other.same edge }

/-- Whether an edge has a member, given by its kind and its folded id. -/
def hasMember (kind : MemberKind) (key : String) (edge : Membership) : Bool :=
  edge.memberKind == kind && fold edge.memberId == key

/-- Whether an edge has a group, given by its folded id. -/
def hasGroup (key : String) (edge : Membership) : Bool :=
  fold edge.groupId == key

/-- The roster without a group and the edges at it. -/
def removeGroup (roster : Roster) (id : String) : Roster :=
  let key := fold id
  { roster with
    groupRecords := roster.groupRecords.erase key
    edges :=
      roster.edges.filter fun edge =>
        !(hasGroup key edge || hasMember .group key edge) }

/-- The roster without a user and the edges at it. -/
def removeUser (roster : Roster) (id : String) : Roster :=
  let key := fold id
  { roster with
    userRecords := roster.userRecords.erase key
    edges := roster.edges.filter fun edge => !hasMember .user key edge }

/-- The ids of the groups that a member is directly in. -/
def parents (roster : Roster) (kind : MemberKind) (id : String) : List String :=
  let key := fold id
  inOrder fold ((roster.edges.filter (hasMember kind key)).map (·.groupId))

/-- The ids of the direct members of a group. -/
def membersOf (roster : Roster) (id : String) : List String :=
  let key := fold id
  inOrder fold ((roster.edges.filter (hasGroup key)).map (·.memberId))

/-- A group as it is handed out. -/
def completeGroup (roster : Roster) (group : Group) : Group :=
  { group with
    memberOf := roster.parents .group group.id
    members := roster.membersOf group.id }

/-- A user as it is handed out. -/
def completeUser (roster : Roster) (user : User) : User :=
  { user with memberOf := roster.parents .user user.id }

/-- The group with an id, whatever its spelling. -/
def group? (roster : Roster) (id : String) : Option Group :=
  (roster.groupRecords.get? (fold id)).map roster.completeGroup

/-- The user with an id, whatever its spelling. -/
def user? (roster : Roster) (id : String) : Option User :=
  (roster.userRecords.get? (fold id)).map roster.completeUser

/-- The groups from a position on, up to a number of them. -/
def groupPage (roster : Roster) (start length : Nat) : List Group :=
  (roster.groupRecords.page start length).map roster.completeGroup

/-- The users from a position on, up to a number of them. -/
def userPage (roster : Roster) (start length : Nat) : List User :=
  (roster.userRecords.page start length).map roster.completeUser

/-- The order of edges: by group, then by the kind of the member, then by
member. -/
def edgeLe (left right : String × String × String) : Bool :=
  if left.1 = right.1 then
    if left.2.1 = right.2.1 then decide (left.2.2 ≤ right.2.2) else
      decide (left.2.1 ≤ right.2.1)
  else
    decide (left.1 ≤ right.1)

/-- What edges are ordered by. -/
def edgeKey (edge : Membership) : String × String × String :=
  (fold edge.groupId, edge.memberKind.name, fold edge.memberId)

/-- The edges in order. -/
def sortedEdges (roster : Roster) : List Membership :=
  let keyed := roster.edges.map fun edge => (edgeKey edge, edge)
  (keyed.mergeSort fun left right => edgeLe left.1 right.1).map (·.2)

/-- The edges from a position on, up to a number of them. -/
def edgePage (roster : Roster) (start length : Nat) : List Membership :=
  (roster.sortedEdges.drop start).take length

/-- The error of an authority that rejects the credentials. -/
def denial : DirectoryError :=
  .security "upstream rejected the configured credentials"

/-- What the roster answers, unless the credentials are rejected. -/
def authorized {α : Type} (find : Roster → α) : Action Roster α :=
  .observe fun roster =>
    if roster.isDenied then .error denial else .ok (find roster)

/-- How many records and edges there are. -/
def size (roster : Roster) : Nat :=
  roster.groupRecords.size + roster.userRecords.size + roster.edges.length

instance : Authority Roster where
  group id := authorized fun roster => roster.group? id
  groups start length := authorized fun roster => roster.groupPage start length
  user id := authorized fun roster => roster.user? id
  users start length := authorized fun roster => roster.userPage start length
  memberships start length :=
    authorized fun roster => roster.edgePage start length
  extent := size

end Roster

end CachedDirectory
