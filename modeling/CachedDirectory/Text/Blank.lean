import CachedDirectory.Text.CaseTable

/-!
# Blank characters

Blank characters are those of the Unicode property `White_Space`. They are cut
from the ends of type names and of truth values, and a text that holds nothing
else is blank.
-/

namespace CachedDirectory.Text

/-- The property `White_Space`. -/
def blankRanges : List (Nat × Nat) :=
  [
    (0x9, 0xD), (0x20, 0x20), (0x85, 0x85), (0xA0, 0xA0), (0x1680, 0x1680),
      (0x2000, 0x200A),
    (0x2028, 0x2029), (0x202F, 0x202F), (0x205F, 0x205F), (0x3000, 0x3000)
  ]

/-- Whether the character is white space. -/
def isBlankChar (c : Char) : Bool :=
  inRanges blankRanges c.toNat

/-- The text without the blank characters at both ends. -/
def trim (text : String) : String :=
  String.ofList ((text.toList.dropWhile isBlankChar).reverse.dropWhile
    isBlankChar).reverse

/-- Whether the text holds nothing but blank characters. -/
def isBlank (text : String) : Bool :=
  text.toList.all isBlankChar

end CachedDirectory.Text
