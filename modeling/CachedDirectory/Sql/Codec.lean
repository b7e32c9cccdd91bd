import CachedDirectory.Json.Printer
import CachedDirectory.Sql.Row

/-!
# Values and rows as JSON

Null, integers and texts are written as they are, and bytes as an object with
their hexadecimal digits. A row is an array of pairs of a name and a value.
-/

namespace CachedDirectory

open Json

namespace SqlValue

/-- The value of a hexadecimal digit. -/
def hexDigit? (c : Char) : Option Nat :=
  if c.isDigit then some (c.toNat - '0'.toNat)
  else if 'a' ≤ c && c ≤ 'f' then some (c.toNat - 'a'.toNat + 10)
  else none

/-- The bytes that hexadecimal digits write. -/
def bytes? : List Char → Option (List UInt8)
  | [] => some []
  | high :: low :: rest => do
      let high ← hexDigit? high
      let low ← hexDigit? low
      let bytes ← bytes? rest
      return UInt8.ofNat (16 * high + low) :: bytes
  | _ => none

/-- A value as JSON. -/
def toJson : SqlValue → Json
  | null => .null
  | integer value => .integer value
  | text value => .string value
  | blob bytes =>
      .object
        [("blob",
          .string (String.ofList
            (bytes.flatMap fun byte => hexadecimal 2 byte.toNat)))]

/-- The value that JSON writes. Truth values are 0 and 1, a count is cut to the
largest integer, and an optional value is the value. -/
def ofJson? : Json → Option SqlValue
  | .null => some null
  | .bool value => some (ofBool value)
  | .integer value => some (integer value)
  | .string value => some (text value)
  | .object [("usize", .integer value)] => some (ofNat value.toNat)
  | .object [("some", value)] => ofJson? value
  | .object [("blob", .string digits)] => (bytes? digits.toList).map blob
  | _ => none

end SqlValue

namespace ResultRow

/-- A row as JSON. -/
def toJson (row : ResultRow) : Json :=
  .array (row.cells.map fun (name, value) =>
    .array [.string name, value.toJson])

/-- The cell that JSON writes. -/
def cellOfJson? : Json → Option (String × SqlValue)
  | .array [.string name, value] =>
      (SqlValue.ofJson? value).map fun value => (name, value)
  | _ => none

/-- The row that JSON writes. -/
def ofJson? (json : Json) : Option ResultRow := do
  let items ← json.array?
  let cells ← items.mapM cellOfJson?
  return ⟨cells⟩

end ResultRow

end CachedDirectory
