/-!
# ASCII letters

Keywords and names of columns ignore the case of ASCII letters only; every other
character stands for itself.
-/

namespace CachedDirectory.Text

/-- The text with its ASCII capitals lowered. -/
def lowerAscii (text : String) : String :=
  String.ofList (text.toList.map Char.toLower)

/-- Whether two characters differ at most in the case of an ASCII letter. -/
def sameLetter (left right : Char) : Bool :=
  left.toLower == right.toLower

/-- Whether two texts differ at most in the case of ASCII letters. -/
def sameIgnoringCase (left right : String) : Bool :=
  left.toList.map Char.toLower == right.toList.map Char.toLower

/-- Whether a name may begin with this character. -/
def isNameStart (c : Char) : Bool :=
  c.isAlpha || c == '_'

/-- Whether a name may go on with this character. -/
def isNameChar (c : Char) : Bool :=
  c.isAlphanum || c == '_'

end CachedDirectory.Text
