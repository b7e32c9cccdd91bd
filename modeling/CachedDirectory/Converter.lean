import CachedDirectory.Entity.Basic
import CachedDirectory.Sql.Dialect
import CachedDirectory.Sql.Value
import CachedDirectory.Text.Order

/-!
# Converters

A converter takes the values of attributes to the store and back. It may decline
a value; a filter that compares with a declined value is refused. The standard
converter folds identifiers and texts, writes truth values as 0 and 1, and
splits joined cells. A converter may be adjusted column by column.
-/

namespace CachedDirectory

open Text

/-- How the values of columns are written to the store and read from it. -/
structure Converter where
  /-- The stored form of a value, unless it is declined. -/
  toStore : Column → String → Option SqlValue
  /-- The value that a cell stands for, if it stands for one. -/
  fromStore : Column → SqlValue → Option AttributeValue

namespace Converter

/-- The truth value that a text means; blanks at its ends and the case of its
letters do not matter. -/
def parseFlag? (value : String) : Option Bool :=
  match lowerAscii (trim value) with
  | "true" | "1" | "yes" | "on" => some true
  | "false" | "0" | "no" | "off" => some false
  | _ => none

/-- The stored form of a value in a column of this sort. -/
def standardToStore (sort : ColumnKind) (value : String) : Option SqlValue :=
  match sort with
  | .discriminator => (EntityKind.parse? value).map fun kind => .text kind.name
  | .identifier | .text | .multiValued => some (.text (fold value))
  | .boolean => (parseFlag? value).map .ofBool

/-- The values in a joined cell, without empty ones, in the order of their
folded forms. -/
def splitCell (cell : String) : List String :=
  let parts :=
    (splitAtMarks valueSeparator cell.toList).filter fun part => !part.isEmpty
  inOrder fold (parts.map String.ofList)

/-- The value that a cell in a column of this sort stands for. -/
def standardFromStore (sort : ColumnKind) (cell : SqlValue) :
    Option AttributeValue :=
  match sort, cell with
  | .discriminator, .text content =>
      (EntityKind.parse? content).map fun kind => .text kind.name
  | .boolean, .integer value => some (.flag (value != 0))
  | .boolean, .text content => (parseFlag? content).map .flag
  | .multiValued, .text content => AttributeValue.ofList (splitCell content)
  | .identifier, .text content | .text, .text content => some (.text content)
  | .identifier, .integer value | .text, .integer value =>
      some (.text (toString value))
  | _, _ => none

/-- The converter that directories use unless they are given another one. -/
def standard : Converter where
  toStore column value := standardToStore column.kind value
  fromStore column cell := standardFromStore column.kind cell

/-- Another way of writing the values of a column. -/
inductive Writing where
  | decline
  | null
  /-- The text as it is. -/
  | exact
  /-- The number of its characters. -/
  | length
  /-- Its bytes. -/
  | bytes
  /-- Declines the values that contain a text. -/
  | declineIf (fragment : String)
  /-- Writes seven for the values that contain a text. -/
  | integerIf (fragment : String)
deriving DecidableEq, Repr

/-- Another way of reading the cells of a column. -/
inductive Reading where
  | decline
  /-- The same value for every cell. -/
  | constant (value : AttributeValue)
deriving DecidableEq, Repr

/-- The stored form of a value under an adjusted way of writing. -/
def Writing.toStore (writing : Writing) (otherwise : Option SqlValue)
    (value : String) :
    Option SqlValue :=
  match writing with
  | decline => none
  | null => some .null
  | exact => some (.text value)
  | length => some (.integer value.length)
  | bytes => some (.blob (encodeUtf8 value))
  | declineIf fragment => if contains value fragment then none else otherwise
  | integerIf fragment =>
      if contains value fragment then some (.integer 7) else otherwise

/-- The value of a cell under an adjusted way of reading. -/
def Reading.fromStore : Reading → Option AttributeValue
  | decline => none
  | constant value => some value

/-- A converter with some columns written or read in another way. -/
def adjust (converter : Converter) (writings : Column → Option Writing)
    (readings : Column → Option Reading) : Converter where
  toStore column value :=
    match writings column with
    | some writing => writing.toStore (converter.toStore column value) value
    | none => converter.toStore column value
  fromStore column cell :=
    match readings column with
    | some reading => reading.fromStore
    | none => converter.fromStore column cell

end Converter

end CachedDirectory
