import CachedDirectory.Converter
import CachedDirectory.Error
import CachedDirectory.Sql.Row

/-!
# Records from result rows

A row that was read from the store becomes an entity or an edge again. The
converter reads the cells of an entity; a cell that it declines counts as
missing. A user is active unless the row says that it is not.
-/

namespace CachedDirectory

/-- The value that a converter reads in a column of a row. -/
def readColumn (converter : Converter) (row : ResultRow) (column : Column) :
    Option AttributeValue :=
  (row.get? column.resultName).bind (converter.fromStore column)

/-- The text that a converter reads in a column of a row. -/
def readText (converter : Converter) (row : ResultRow) (column : Column) :
    Option String :=
  match readColumn converter row column with
  | some (.text value) => some value
  | _ => none

/-- The values that a converter reads in a column of a row. -/
def readMany (converter : Converter) (row : ResultRow) (column : Column) :
    List String :=
  match readColumn converter row column with
  | some (.many values) => values
  | _ => []

/-- The entity that a row describes. -/
def Entity.ofRow (converter : Converter) (row : ResultRow) : Answer Entity :=
  match (readText converter row .type).bind EntityKind.parse? with
  | none => .error (.internal "entity row without a valid entity_type")
  | some kind =>
      match readText converter row .id with
      | none => .error (.internal (kind.name ++ " row without an id"))
      | some id =>
          match kind with
          | .group =>
              .ok
                (.group
                  ⟨id, readText converter row .description,
                    readMany converter row .memberOf,
                    readMany converter row .members⟩)
          | .user =>
              .ok
                (.user
                  ⟨id, readText converter row .displayName,
                    readText converter row .firstName,
                    readText converter row .lastName,
                      readText converter row .email,
                    readColumn converter row .active != some (.flag false),
                    readMany converter row .memberOf⟩)
          | other =>
              .error (.internal (other.name ++ " entries are never stored"))

/-- A text that the row of an edge must have. -/
def edgeField (row : ResultRow) (name : String) : Answer String :=
  match row.text? name with
  | some value => .ok value
  | none => .error (.internal ("membership row without " ++ name))

/-- The edge that a row describes. -/
def Membership.ofRow (row : ResultRow) : Answer Membership :=
  match (row.text? "member_type").bind MemberKind.parse? with
  | none => .error (.internal "membership row without a valid member_type")
  | some memberKind => do
      let groupId ← edgeField row "group_id"
      let memberId ← edgeField row "member_id"
      return ⟨groupId, memberKind, memberId⟩

end CachedDirectory
