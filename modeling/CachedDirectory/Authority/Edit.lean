import CachedDirectory.Authority.Roster
import CachedDirectory.Entity.Codec

/-!
# Edits of a roster

What a roster holds is changed by edits, which can be written as JSON: an object
whose field `call` names the edit and whose other fields are its parts.
-/

namespace CachedDirectory

/-- A change of a roster. -/
inductive RosterEdit where
  | putGroup (group : Group)
  | putUser (user : User)
  | addEdge (edge : Membership)
  | removeEdge (edge : Membership)
  | removeGroup (id : String)
  | removeUser (id : String)
  /-- Rejects the credentials from now on, or no longer. -/
  | deny (denied : Bool)
deriving DecidableEq, Repr

namespace RosterEdit

/-- The roster after an edit. -/
def apply (roster : Roster) : RosterEdit → Roster
  | putGroup group => roster.putGroup group
  | putUser user => roster.putUser user
  | addEdge edge => roster.addEdge edge
  | removeEdge edge => roster.removeEdge edge
  | removeGroup id => roster.removeGroup id
  | removeUser id => roster.removeUser id
  | deny denied => { roster with isDenied := denied }

/-- The roster after edits, one after the other. -/
def applyAll (roster : Roster) (edits : List RosterEdit) : Roster :=
  edits.foldl apply roster

end RosterEdit

namespace Membership

/-- The edge that the fields of a call describe. The kind of the member may be
spelled freely. -/
def ofCall? (fields : List (String × Json)) : Option Membership := do
  let groupId ← Json.require Json.string? (fields.lookup "group")
  let kind ← Json.require Json.string? (fields.lookup "type")
  let memberKind ← MemberKind.parse? kind
  let memberId ← Json.require Json.string? (fields.lookup "member")
  return ⟨groupId, memberKind, memberId⟩

end Membership

namespace RosterEdit

/-- The id that the fields of a call name. -/
def idOf? (fields : List (String × Json)) : Option String :=
  Json.require Json.string? (fields.lookup "id")

/-- The group that the fields of a call describe. -/
def groupOf? (fields : List (String × Json)) : Option Group := do
  let id ← idOf? fields
  let description ←
    Json.withDefault Json.nullableString? none (fields.lookup "description")
  return ⟨id, description, [], []⟩

/-- The user that the fields of a call describe; active unless they say
otherwise. -/
def userOf? (fields : List (String × Json)) : Option User := do
  let optional (name : String) :=
    Json.withDefault Json.nullableString? none (fields.lookup name)
  let id ← idOf? fields
  let displayName ← optional "display_name"
  let firstName ← optional "first_name"
  let lastName ← optional "last_name"
  let email ← optional "email"
  let active ← Json.withDefault Json.bool? true (fields.lookup "active")
  return ⟨id, displayName, firstName, lastName, email, active, []⟩

/-- The edit that a call of this name with these fields is. -/
def ofCall? (call : String) (fields : List (String × Json)) :
    Option RosterEdit :=
  match call with
  | "put_group" => (groupOf? fields).map putGroup
  | "put_user" => (userOf? fields).map putUser
  | "add_edge" => (Membership.ofCall? fields).map addEdge
  | "remove_edge" => (Membership.ofCall? fields).map removeEdge
  | "remove_group" => (idOf? fields).map removeGroup
  | "remove_user" => (idOf? fields).map removeUser
  | "deny" => (Json.require Json.bool? (fields.lookup "denied")).map deny
  | _ => none

end RosterEdit

end CachedDirectory
