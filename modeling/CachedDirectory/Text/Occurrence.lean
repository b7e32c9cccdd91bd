/-!
# Occurrences in a text

Texts are searched from left to right, as lists of characters.
-/

namespace CachedDirectory.Text

/-- What follows the leftmost occurrence of `fragment`, if it occurs. The empty
fragment occurs at once. -/
def afterFirst? (fragment : List Char) : List Char → Option (List Char)
  | [] => fragment.isPrefixOf? []
  | c :: rest =>
      match fragment.isPrefixOf? (c :: rest) with
      | some remaining => some remaining
      | none => afterFirst? fragment rest

/-- Whether `fragment` occurs in `text`. -/
def contains (text fragment : String) : Bool :=
  (afterFirst? fragment.toList text.toList).isSome

/-- The text with the leftmost `mark` replaced, or as it is without a mark. -/
def replaceFirst (mark : Char) (replacement : List Char) : List Char → List Char
  | [] => []
  | c :: rest =>
      if c =
        mark then replacement ++ rest else
          c :: replaceFirst mark replacement rest

/-- The text with every `mark` replaced. -/
def replaceEach (mark : Char) (replacement : List Char) (text : List Char) :
    List Char :=
  text.flatMap fun c => if c = mark then replacement else [c]

/-- The parts of the text between the marks; one more than there are marks. -/
def splitAtMarks (mark : Char) : List Char → List (List Char)
  | [] => [[]]
  | c :: rest =>
      if c = mark then
        [] :: splitAtMarks mark rest
      else
        match splitAtMarks mark rest with
        | [] => [[c]]
        | part :: parts => (c :: part) :: parts

end CachedDirectory.Text
