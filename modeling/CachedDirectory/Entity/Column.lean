import CachedDirectory.Entity.Kind
import CachedDirectory.Text.Fold

/-!
# Columns

The attributes that filters and results speak of form a closed set of columns.
Each kind of entity has some of them, and the sort of a column says how its
values are compared and stored.
-/

namespace CachedDirectory

/-- An attribute of some kind of entity. -/
inductive Column where
  | type
  | id
  | description
  | displayName
  | firstName
  | lastName
  | email
  | active
  /-- The groups that an entity is directly a member of. -/
  | memberOf
  /-- The direct members of a group. -/
  | members
deriving DecidableEq, Repr

/-- How the values of a column are compared and stored. -/
inductive ColumnKind where
  /-- The name of an entity kind. -/
  | discriminator
  /-- The identity of an entity, stored folded. -/
  | identifier
  /-- Free text, compared folded. -/
  | text
  | boolean
  /-- Identifiers that come from membership edges. -/
  | multiValued
deriving DecidableEq, Repr

namespace ColumnKind

/-- The name of a sort of column. -/
def name : ColumnKind → String
  | discriminator => "Discriminator"
  | identifier => "Identifier"
  | text => "Text"
  | boolean => "Boolean"
  | multiValued => "MultiValued"

end ColumnKind

namespace Column

/-- Every column. -/
def all : List Column :=
  [type, id, description, displayName, firstName, lastName, email, active,
    memberOf, members]

/-- The name of a column. -/
def name : Column → String
  | type => "TYPE"
  | id => "ID"
  | description => "DESCRIPTION"
  | displayName => "DISPLAY_NAME"
  | firstName => "FIRST_NAME"
  | lastName => "LAST_NAME"
  | email => "EMAIL"
  | active => "ACTIVE"
  | memberOf => "MEMBER_OF"
  | members => "MEMBERS"

/-- The column with exactly this name. -/
def ofName? (text : String) : Option Column :=
  all.find? fun column => column.name == text

/-- The sort of a column. -/
def kind : Column → ColumnKind
  | type => .discriminator
  | id => .identifier
  | description | displayName | firstName | lastName | email => .text
  | active => .boolean
  | memberOf | members => .multiValued

/-- The name that a column has in a row read from the store. -/
def resultName : Column → String
  | type => "entity_type"
  | id => "id"
  | description => "description"
  | displayName => "display_name"
  | firstName => "first_name"
  | lastName => "last_name"
  | email => "email"
  | active => "active"
  | memberOf => "member_of"
  | members => "members"

/-- What of an attribute name counts: letters lowered one by one, without
hyphens and underscores. -/
def normalizeAttribute (attr : String) : List Char :=
  (attr.toList.filter fun c => c != '_' && c != '-').flatMap Text.lowerChar

/-- The column that an attribute name means; `displayName`, `display_name` and
`DISPLAY-NAME` mean the same one. -/
def ofAttribute? (attr : String) : Option Column :=
  all.find? fun column =>
    normalizeAttribute column.name == normalizeAttribute attr

theorem ofName?_name (column : Column) : ofName? column.name = some column := by
  cases column <;> decide

end Column

namespace EntityKind

/-- The columns that entities of a kind have. -/
def columns : EntityKind → List Column
  | domain | groupUnit | userUnit => [.type, .id, .description]
  | group => [.type, .id, .description, .memberOf, .members]
  | user =>
      [.type, .id, .displayName, .firstName, .lastName, .email, .active,
        .memberOf]

/-- Whether entities of a kind have the column. -/
def hasColumn (kind : EntityKind) (column : Column) : Bool :=
  kind.columns.contains column

end EntityKind

end CachedDirectory
