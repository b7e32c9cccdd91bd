import CachedDirectory.Entity.Basic
import CachedDirectory.Json

/-!
# Entities as JSON

An entity is an object with one field, named for the form of the record, that
holds the record. Texts that may be missing may be null, and lists of ids may be
left out.
-/

namespace CachedDirectory

open Json

namespace EntityKind

/-- A kind as JSON. -/
def toJson (kind : EntityKind) : Json :=
  string kind.name

/-- The kind that JSON names exactly. -/
def ofJson? (json : Json) : Option EntityKind :=
  json.name?.bind ofName?

end EntityKind

namespace MemberKind

/-- A member kind as JSON. -/
def toJson (kind : MemberKind) : Json :=
  string kind.name

/-- The member kind that JSON names exactly. -/
def ofJson? (json : Json) : Option MemberKind :=
  json.name?.bind ofName?

end MemberKind

namespace Column

/-- The column that JSON names exactly. -/
def ofJson? (json : Json) : Option Column :=
  json.name?.bind ofName?

end Column

namespace DomainRoot

/-- A root as JSON. -/
def toJson (root : DomainRoot) : Json :=
  object [("id", string root.id), ("description", string root.description)]

/-- The root that JSON writes. -/
def ofJson? (json : Json) : Option DomainRoot :=
  match json.fields? [("id", .required), ("description", .required)] with
  | some [id, description] => do
      let id ← require string? id
      let description ← require string? description
      return ⟨id, description⟩
  | _ => none

end DomainRoot

namespace Container

/-- A container as JSON. -/
def toJson (unit : Container) : Json :=
  object
    [
      ("unit_type", unit.kind.toJson), ("id", string unit.id),
      ("description", string unit.description)
    ]

/-- The container that JSON writes. -/
def ofJson? (json : Json) : Option Container :=
  match json.fields?
    [("unit_type", .required), ("id", .required),
      ("description", .required)] with
  | some [kind, id, description] => do
      let kind ← require EntityKind.ofJson? kind
      let id ← require string? id
      let description ← require string? description
      return ⟨kind, id, description⟩
  | _ => none

end Container

namespace Group

/-- A group as JSON. -/
def toJson (group : Group) : Json :=
  object
    [
      ("id", string group.id), ("description", ofOption group.description),
      ("member_of", ofStrings group.memberOf),
        ("members", ofStrings group.members)
    ]

/-- The group that JSON writes. -/
def ofJson? (json : Json) : Option Group :=
  match json.fields?
      [
        ("id", .required), ("description", .optional),
          ("member_of", .defaulted),
        ("members", .defaulted)
      ] with
  | some [id, description, memberOf, members] => do
      let id ← require string? id
      let description ← withDefault nullableString? none description
      let memberOf ← withDefault strings? [] memberOf
      let members ← withDefault strings? [] members
      return ⟨id, description, memberOf, members⟩
  | _ => none

end Group

namespace User

/-- A user as JSON. -/
def toJson (user : User) : Json :=
  object
    [
      ("id", string user.id), ("display_name", ofOption user.displayName),
      ("first_name", ofOption user.firstName),
        ("last_name", ofOption user.lastName),
      ("email", ofOption user.email), ("active", bool user.active),
      ("member_of", ofStrings user.memberOf)
    ]

/-- The user that JSON writes. -/
def ofJson? (json : Json) : Option User :=
  match json.fields?
      [
        ("id", .required), ("display_name", .optional),
          ("first_name", .optional),
        ("last_name", .optional), ("email", .optional), ("active", .required),
        ("member_of", .defaulted)
      ] with
  | some [id, displayName, firstName, lastName, email, active, memberOf] => do
      let id ← require string? id
      let displayName ← withDefault nullableString? none displayName
      let firstName ← withDefault nullableString? none firstName
      let lastName ← withDefault nullableString? none lastName
      let email ← withDefault nullableString? none email
      let active ← require bool? active
      let memberOf ← withDefault strings? [] memberOf
      return ⟨id, displayName, firstName, lastName, email, active, memberOf⟩
  | _ => none

end User

namespace AttributeValue

/-- The value of an attribute as JSON. -/
def toJson : AttributeValue → Json
  | text value => object [("text", string value)]
  | flag value => object [("bool", bool value)]
  | many values => object [("multi", ofStrings values)]

/-- The value of an attribute that JSON writes. -/
def ofJson? : Json → Option AttributeValue
  | .object [("text", .string value)] => some (text value)
  | .object [("bool", .bool value)] => some (flag value)
  | .object [("multi", json)] => json.strings?.map many
  | _ => none

end AttributeValue

namespace Entity

/-- An entity as JSON. -/
def toJson : Entity → Json
  | domain root => object [("Domain", root.toJson)]
  | container unit => object [("Unit", unit.toJson)]
  | group record => object [("Group", record.toJson)]
  | user record => object [("User", record.toJson)]

/-- The entity that JSON writes. -/
def ofJson? : Json → Option Entity
  | .object [("Domain", record)] => (DomainRoot.ofJson? record).map domain
  | .object [("Unit", record)] => (Container.ofJson? record).map container
  | .object [("Group", record)] => (Group.ofJson? record).map group
  | .object [("User", record)] => (User.ofJson? record).map user
  | _ => none

end Entity

namespace Membership

/-- The edge that JSON writes. -/
def ofJson? (json : Json) : Option Membership :=
  match json.fields?
      [("group_id", .required), ("member_type", .required),
        ("member_id", .required)] with
  | some [groupId, memberKind, memberId] => do
      let groupId ← require string? groupId
      let memberKind ← require MemberKind.ofJson? memberKind
      let memberId ← require string? memberId
      return ⟨groupId, memberKind, memberId⟩
  | _ => none

end Membership

end CachedDirectory
