import CachedDirectory.Sql.Truth
import CachedDirectory.Text.Blank
import CachedDirectory.Text.Quoted
import CachedDirectory.Text.Utf8

/-!
# Values of cells and parameters

A cell of the store and a parameter of a statement hold nothing, an integer of
64 bits, a text or bytes. Comparison with nothing is unknown; values of
different sorts are never equal, and they are ordered by sort: nothing,
integers, texts by code points, bytes.
-/

namespace CachedDirectory

/-- The content of a cell or a parameter. -/
inductive SqlValue where
  | null
  | integer (value : Int)
  | text (value : String)
  | blob (bytes : List UInt8)
deriving DecidableEq, Repr

namespace SqlValue

/-- The largest integer that a cell can hold. -/
def maxInteger : Nat :=
  9223372036854775807

/-- A count as a parameter; what does not fit is cut to the largest integer. -/
def ofNat (n : Nat) : SqlValue :=
  integer (min n maxInteger)

/-- A truth value as a parameter. -/
def ofBool (flag : Bool) : SqlValue :=
  integer (if flag then 1 else 0)

/-- An optional text as a parameter. -/
def ofText? (value : Option String) : SqlValue :=
  match value with
  | some content => text content
  | none => null

/-- The text of a cell that holds one. -/
def text? : SqlValue → Option String
  | text value => some value
  | _ => none

/-- The integer of a cell that holds one. -/
def integer? : SqlValue → Option Int
  | integer value => some value
  | _ => none

/-- Whether the cell holds nothing. -/
def isNull (value : SqlValue) : Bool :=
  value == null

/-- Whether two values are equal; unknown if one of them is nothing. -/
def equals : SqlValue → SqlValue → Truth
  | null, _ | _, null => .unknown
  | left, right => .ofBool (left == right)

/-- The order of values: nothing, integers, texts by code points, bytes. -/
def le : SqlValue → SqlValue → Bool
  | null, _ => true
  | _, null => false
  | integer left, integer right => left ≤ right
  | integer _, _ => true
  | _, integer _ => false
  | text left, text right => left ≤ right
  | text _, _ => true
  | _, text _ => false
  | blob left, blob right => left ≤ right

/-- Whether the first value comes after the second; unknown if one of them is
nothing. -/
def exceeds : SqlValue → SqlValue → Truth
  | null, _ | _, null => .unknown
  | left, right => .ofBool (!left.le right)

/-- Whether the cell holds something; never unknown. -/
def isPresent (value : SqlValue) : Truth :=
  .ofBool (!value.isNull)

/-- What a reader receives for a cell: bytes that are UTF-8 arrive as text. -/
def received : SqlValue → SqlValue
  | blob bytes =>
      match Text.decodeUtf8? bytes with
      | some content => text content
      | none => blob bytes
  | value => value

/-- The diagnostic form of a value. -/
def diagnostic : SqlValue → String
  | null => "Null"
  | integer value => "Integer(" ++ toString value ++ ")"
  | text value => "Text(" ++ Text.quoted value ++ ")"
  | blob bytes =>
      "Blob([" ++ String.intercalate ", "
        (bytes.map fun byte => toString byte.toNat) ++ "])"

end SqlValue

end CachedDirectory
