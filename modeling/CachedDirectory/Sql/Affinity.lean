import CachedDirectory.Number.Numeral
import CachedDirectory.Sql.Value

/-!
# Affinity

A column converts what is stored in it or compared with it. Text columns turn
integers into their decimal text. Integer columns turn a text that is a number
into that number, and keep every other text; a number that is no integer of 64
bits stays there as a binary number, which a reader does not receive.
-/

namespace CachedDirectory

open Number

namespace SqlValue

/-- What a text column makes of a value. -/
def asText : SqlValue → SqlValue
  | integer value => text (toString value)
  | value => value

@[simp]
theorem asText_text (content : String) : asText (text content) = text content :=
  rfl

@[simp]
theorem asText_null : asText null = null :=
  rfl

end SqlValue

/-- A cell of an integer column. -/
inductive NumericCell where
  /-- A value that is no number, or an integer. -/
  | plain (value : SqlValue)
  /-- A number that is no integer of 64 bits. -/
  | real (value : Binary)
deriving DecidableEq, Repr

namespace NumericCell

/-- The cell that holds a truth value. -/
def ofBool (flag : Bool) : NumericCell :=
  plain (.ofBool flag)

/-- The cell that holds nothing. -/
def empty : NumericCell :=
  plain .null

/-- What an integer column makes of a binary number. One that is an integer
becomes that integer, unless it is as large as the bounds of 64 bits. -/
def ofBinary : Binary → NumericCell
  | .finite value =>
      if value.den = 1 ∧ value.num.natAbs ≤ SqlValue.maxInteger then
        plain (.integer value.num)
      else
        real (.finite value)
  | .infinite isNegative => real (.infinite isNegative)

/-- Whether an integer has 64 bits. -/
def fits (value : Int) : Bool :=
  -(SqlValue.maxInteger : Int) - 1 ≤ value && value ≤ SqlValue.maxInteger

/-- What an integer column makes of a numeral. -/
def ofNumeral (numeral : Numeral) : NumericCell :=
  match numeral.integer?.filter fits with
  | some value => plain (.integer value)
  | none => ofBinary numeral.toBinary

/-- What an integer column makes of a value. -/
def ofValue : SqlValue → NumericCell
  | .text content =>
      match Numeral.ofText? content with
      | some numeral => ofNumeral numeral
      | none => plain (.text content)
  | value => plain value

/-- Whether a value is a number; unknown if it is nothing. -/
def equalsReal (value : SqlValue) (number : Binary) : Truth :=
  match value with
  | .null => .unknown
  | .integer integer => .ofBool (number == .finite integer)
  | .text _ | .blob _ => .no

/-- Whether two cells are equal; numbers are compared as numbers. Unknown if one
of the cells holds nothing. -/
def equals : NumericCell → NumericCell → Truth
  | plain left, plain right => left.equals right
  | real left, real right => .ofBool (left == right)
  | plain value, real number | real number, plain value =>
      equalsReal value number

/-- Whether the cell holds something; never unknown. -/
def isPresent : NumericCell → Truth
  | plain value => value.isPresent
  | real _ => .yes

/-- What a reader receives for a cell: nothing for a number that is no
integer. -/
def received : NumericCell → SqlValue
  | plain value => value.received
  | real _ => .null

@[simp]
theorem ofValue_integer (value : Int) :
    ofValue (.integer value) = plain (.integer value) :=
  rfl

@[simp]
theorem ofValue_null : ofValue .null = empty :=
  rfl

end NumericCell

end CachedDirectory
