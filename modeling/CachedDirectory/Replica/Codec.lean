import CachedDirectory.Authority.Edit
import CachedDirectory.Replica.Resync

/-!
# Calls and reports as JSON

A call that keeps a replica in step is an object whose field `call` names it and
whose other fields are its arguments. An edge is written as an array and a
report as an object.
-/

namespace CachedDirectory

open Json

/-- An edge as an array: its group, the kind of its member, and its member. -/
def Membership.toArray (edge : Membership) : Json :=
  ofStrings [edge.groupId, edge.memberKind.name, edge.memberId]

namespace SyncCall

/-- The call of this name with these fields. -/
def ofCall? (call : String) (fields : List (String × Json)) : Option SyncCall :=
  let id := RosterEdit.idOf? fields
  let number (name : String) := require (natural? maxWord) (fields.lookup name)
  match call with
  | "require_reset" => some requireReset
  | "mark_reset_required" => some markResetRequired
  | "reset" => some reset
  | "mark_synchronized" => some markSynchronized
  | "upsert_group" => id.map upsertGroup
  | "upsert_groups_page" => do
      let position ← number "start"
      let length ← number "max"
      return upsertGroupsPage position length
  | "upsert_all_groups" => some upsertAllGroups
  | "upsert_user" => id.map upsertUser
  | "upsert_user_copying_groups" => do
      let target ← id
      let source ← require string? (fields.lookup "from")
      return upsertUserCopyingGroups target source
  | "upsert_users_page" => do
      let position ← number "start"
      let length ← number "max"
      return upsertUsersPage position length
  | "upsert_all_users" => some upsertAllUsers
  | "upsert_membership" => (Membership.ofCall? fields).map upsertMembership
  | "drop_group" => id.map dropGroup
  | "drop_all_groups" => some dropAllGroups
  | "drop_user" => id.map dropUser
  | "drop_all_users" => some dropAllUsers
  | "drop_membership" => (Membership.ofCall? fields).map dropMembership
  | "memberships" => some memberships
  | _ => none

end SyncCall

namespace SyncReply

/-- A reply as JSON. -/
def toJson : SyncReply → Json
  | .done => null
  | .flag value => bool value
  | .count number => ofNat number
  | .edges found => array (found.map Membership.toArray)

end SyncReply

namespace SyncReport

/-- A report as JSON. -/
def toJson (report : SyncReport) : Json :=
  object
    [
      ("performed", bool report.performed), ("groups", ofNat report.groups),
      ("users", ofNat report.users), ("memberships", ofNat report.memberships),
      ("skipped", ofNat report.skipped)
    ]

end SyncReport

end CachedDirectory
