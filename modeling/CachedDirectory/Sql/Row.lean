import CachedDirectory.Sql.Value
import CachedDirectory.Text.Ascii

/-!
# Result rows

A row read from the store is a list of named cells. Columns are found by name
whatever the case of its ASCII letters; the first one of that name counts.
-/

namespace CachedDirectory

/-- One row of a result. -/
structure ResultRow where
  cells : List (String × SqlValue)
deriving DecidableEq, Repr

namespace ResultRow

/-- The cell under a name. -/
def get? (row : ResultRow) (name : String) : Option SqlValue :=
  (row.cells.find? fun (column, _) => Text.sameIgnoringCase column name).map
    (·.2)

/-- The text under a name. -/
def text? (row : ResultRow) (name : String) : Option String :=
  (row.get? name).bind SqlValue.text?

/-- The integer under a name. -/
def integer? (row : ResultRow) (name : String) : Option Int :=
  (row.get? name).bind SqlValue.integer?

/-- The names of the columns, in the order of the row. -/
def names (row : ResultRow) : List String :=
  row.cells.map (·.1)

/-- The first cell, the value of a row with one column. -/
def first? (row : ResultRow) : Option SqlValue :=
  row.cells.head?.map (·.2)

/-- The diagnostic form of a row. -/
def diagnostic (row : ResultRow) : String :=
  let cells := row.cells.map fun (name, value) =>
    "(" ++ Text.quoted name ++ ", " ++ value.diagnostic ++ ")"
  "ResultRow \x7b columns: [" ++ String.intercalate ", " cells ++ "] \x7d"

end ResultRow

/-- The rows of a result, in order. -/
structure ResultSet where
  rows : List ResultRow
deriving DecidableEq, Repr

namespace ResultSet

/-- The number of rows. -/
def size (set : ResultSet) : Nat :=
  set.rows.length

/-- The row at a position, counted from zero. -/
def row? (set : ResultSet) (index : Nat) : Option ResultRow :=
  set.rows[index]?

/-- The cell of a row under a name. -/
def value? (set : ResultSet) (index : Nat) (name : String) : Option SqlValue :=
  (set.row? index).bind fun row => row.get? name

/-- The diagnostic form of a result set. -/
def diagnostic (set : ResultSet) : String :=
  "ResultSet \x7b rows: [" ++
    String.intercalate ", " (set.rows.map ResultRow.diagnostic) ++
    "] \x7d"

end ResultSet

end CachedDirectory
