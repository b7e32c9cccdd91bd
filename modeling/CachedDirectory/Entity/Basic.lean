import CachedDirectory.Entity.Column

/-!
# Entities

The records of a directory and the membership edges between them. An entity is
identified by its kind and its folded id, so two records with the same identity
may differ in every other field.
-/

namespace CachedDirectory

open Text

/-- The root of the directory. -/
structure DomainRoot where
  id : String
  description : String
deriving DecidableEq, Repr

/-- A fixed container of entities; its kind says of which. -/
structure Container where
  kind : EntityKind
  id : String
  description : String
deriving DecidableEq, Repr

/-- A group. -/
structure Group where
  id : String
  description : Option String
  /-- Ids of the groups that it is directly a member of. -/
  memberOf : List String := []
  /-- Ids of its direct members. -/
  members : List String := []
deriving DecidableEq, Repr

/-- A user. -/
structure User where
  id : String
  displayName : Option String
  firstName : Option String
  lastName : Option String
  email : Option String
  active : Bool
  /-- Ids of the groups that the user is directly a member of. -/
  memberOf : List String := []
deriving DecidableEq, Repr

/-- Anything that the directory can return. -/
inductive Entity where
  | domain (root : DomainRoot)
  | container (unit : Container)
  | group (group : Group)
  | user (user : User)
deriving DecidableEq, Repr

/-- The value of a column of an entity. -/
inductive AttributeValue where
  | text (value : String)
  | flag (value : Bool)
  | many (values : List String)
deriving DecidableEq, Repr

namespace AttributeValue

/-- The single values, as texts. -/
def values : AttributeValue → List String
  | text value => [value]
  | flag true => ["true"]
  | flag false => ["false"]
  | many values => values

/-- Several values, or nothing if there are none. -/
def ofList (values : List String) : Option AttributeValue :=
  if values.isEmpty then none else some (many values)

end AttributeValue

namespace Entity

/-- The id as it was written last. -/
def id : Entity → String
  | domain root => root.id
  | container unit => unit.id
  | group record => record.id
  | user record => record.id

/-- The kind of an entity. -/
def kind : Entity → EntityKind
  | domain _ => .domain
  | container unit => unit.kind
  | group _ => .group
  | user _ => .user

/-- The value of a column that the record itself holds. -/
def field : Entity → Column → Option AttributeValue
  | entity, .type => some (.text entity.kind.name)
  | entity, .id => some (.text entity.id)
  | domain root, .description => some (.text root.description)
  | container unit, .description => some (.text unit.description)
  | group record, .description => record.description.map .text
  | user record, .displayName => record.displayName.map .text
  | user record, .firstName => record.firstName.map .text
  | user record, .lastName => record.lastName.map .text
  | user record, .email => record.email.map .text
  | user record, .active => some (.flag record.active)
  | group record, .memberOf => AttributeValue.ofList record.memberOf
  | user record, .memberOf => AttributeValue.ofList record.memberOf
  | group record, .members => AttributeValue.ofList record.members
  | _, _ => none

/-- The value of a column, absent if the kind of the entity lacks the column. -/
def value? (entity : Entity) (column : Column) : Option AttributeValue :=
  if entity.kind.hasColumn column then entity.field column else none

/-- The form of a record, which tells a container from the entities it is a
container of. -/
def form : Entity → Nat
  | domain _ => 0
  | container _ => 1
  | group _ => 2
  | user _ => 3

/-- What identifies an entity: its form, its kind and its folded id. -/
def identity (entity : Entity) : Nat × EntityKind × String :=
  (entity.form, entity.kind, fold entity.id)

/-- Whether two records stand for the same entity. -/
def same (left right : Entity) : Bool :=
  left.identity == right.identity

end Entity

/-- A membership edge: the group directly contains the member. -/
structure Membership where
  groupId : String
  memberKind : MemberKind
  memberId : String
deriving DecidableEq, Repr

namespace Membership

/-- What identifies an edge: the folded ids of its ends and the kind of the
member. -/
def identity (edge : Membership) : String × MemberKind × String :=
  (fold edge.groupId, edge.memberKind, fold edge.memberId)

/-- Whether two edges have the same ends. -/
def same (left right : Membership) : Bool :=
  left.identity == right.identity

end Membership

end CachedDirectory
