import CachedDirectory.Converter
import CachedDirectory.Entity.Codec

/-!
# Adjusted converters as JSON

An adjusted converter is described by the columns that it writes in another way
and those that it reads in another way.
-/

namespace CachedDirectory.Converter

/-- The way of writing that JSON describes. -/
def Writing.ofJson? : Json → Option Writing
  | .string "decline" => some decline
  | .string "null" => some null
  | .string "exact" => some exact
  | .string "length" => some length
  | .string "bytes" => some bytes
  | .object [("decline_if", .string fragment)] => some (declineIf fragment)
  | .object [("integer_if", .string fragment)] => some (integerIf fragment)
  | _ => none

/-- The way of reading that JSON describes. -/
def Reading.ofJson? : Json → Option Reading
  | .string "decline" => some decline
  | json => (AttributeValue.ofJson? json).map constant

/-- What an object has for columns. -/
def columnsOfJson? {α : Type} (read : Json → Option α) :
    Json → Option (List (Column × α))
  | .null => some []
  | .object fields =>
      fields.mapM fun (name, json) => do
        let column ← Column.ofName? name
        let value ← read json
        return (column, value)
  | _ => none

/-- The converter that JSON describes; null stands for the standard one. -/
def ofJson? : Json → Option Converter
  | .null => some standard
  | .object fields => do
      let writings ←
        columnsOfJson? Writing.ofJson? ((fields.lookup "to").getD .null)
      let readings ←
        columnsOfJson? Reading.ofJson? ((fields.lookup "from").getD .null)
      return standard.adjust (fun column => writings.lookup column)
        fun column => readings.lookup column
  | _ => none

end CachedDirectory.Converter
