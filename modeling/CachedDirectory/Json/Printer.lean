import CachedDirectory.Json

/-!
# Printing JSON

A JSON tree is printed on one line and in ASCII: every other character is
written with four hexadecimal digits, or with twice four if it has no place
among the first 65536.
-/

namespace CachedDirectory.Json

/-- A number with hexadecimal digits, at least as many as told. -/
def hexadecimal (places code : Nat) : List Char :=
  let digits := Nat.toDigits 16 code
  List.replicate (places - digits.length) '0' ++ digits

/-- A number of 16 bits as an escape. -/
def escapeUnit (unit : Nat) : List Char :=
  '\\' :: 'u' :: hexadecimal 4 unit

/-- A character in a printed string. -/
def escapeChar (c : Char) : List Char :=
  let code := c.toNat
  if c == '"' || c == '\\' then ['\\', c]
  else if 0x20 ≤ code && code < 0x7f then [c]
  else if code < 0x10000 then escapeUnit code
  else
    let offset := code - 0x10000
    escapeUnit (0xd800 + offset / 0x400) ++ escapeUnit (0xdc00 + offset % 0x400)

/-- A printed string. -/
def writeString (value : String) : String :=
  String.ofList ('"' :: value.toList.flatMap escapeChar ++ ['"'])

/-- A number with digits after the point. -/
def writeDecimal (digits : Int) (places : Nat) : String :=
  let written := (toString digits.natAbs).toList
  let padded := List.replicate (places + 1 - written.length) '0' ++ written
  let sign := if digits < 0 then ['-'] else []
  let whole := padded.length - places
  String.ofList (sign ++ padded.take whole ++ '.' :: padded.drop whole)

mutual

/-- The text of a tree. -/
def write : Json → String
  | null => "null"
  | bool true => "true"
  | bool false => "false"
  | integer value => toString value
  | fraction digits places => writeDecimal digits places
  | string value => writeString value
  | array items => "[" ++ String.intercalate "," (writeItems items) ++ "]"
  | object fields =>
      "\x7b" ++ String.intercalate "," (writeFields fields) ++ "\x7d"

/-- The texts of trees. -/
def writeItems : List Json → List String
  | [] => []
  | item :: rest => write item :: writeItems rest

/-- The texts of fields. -/
def writeFields : List (String × Json) → List String
  | [] => []
  | (name, value) :: rest =>
      (writeString name ++ ":" ++ write value) :: writeFields rest

end

end CachedDirectory.Json
