import CachedDirectory.Sql.Value
import CachedDirectory.Text.Ascii

/-!
# LIKE patterns

A pattern is compared with a whole text: a percent sign stands for any run of
characters, an underscore for one, and an exclamation mark takes from the
character after it its special meaning. The percent signs divide a pattern into
stretches. The first one must begin the text, the last one must end it, and each
of the others is taken where it is found first, which leaves most of the text
for those after it. Which characters match each other is up to the caller; the
store ignores the case of ASCII letters.
-/

namespace CachedDirectory

/-- What stands in a pattern for one character. -/
inductive LikeUnit where
  | anyOne
  | literal (c : Char)
deriving DecidableEq, Repr

/-- The units of a pattern between two percent signs. -/
abbrev LikeStretch :=
  List LikeUnit

namespace LikeStretch

/-- Whether a character has a special meaning in a pattern. -/
def isSpecial (c : Char) : Bool :=
  c == '!' || c == '%' || c == '_'

/-- A text as a pattern that matches it alone: special characters are
escaped. -/
def escapeText (content : List Char) : List Char :=
  content.flatMap fun c => if isSpecial c then ['!', c] else [c]

/-- The stretches with a unit put in front of the first one. -/
def extendFirst (unit : LikeUnit) : List LikeStretch → List LikeStretch
  | [] => [[unit]]
  | first :: rest => (unit :: first) :: rest

/-- The stretches of a pattern, one more than it has percent signs; a pattern
that ends within an escape has none. -/
def ofPattern? : List Char → Option (List LikeStretch)
  | [] => some [[]]
  | '!' :: c :: rest => (ofPattern? rest).map (extendFirst (.literal c))
  | ['!'] => none
  | '%' :: rest => (ofPattern? rest).map ([] :: ·)
  | '_' :: rest => (ofPattern? rest).map (extendFirst .anyOne)
  | c :: rest => (ofPattern? rest).map (extendFirst (.literal c))

variable {α : Type} (agree : Char → α → Bool)

/-- What follows a stretch at the beginning of a text, if it is there. -/
def after? : LikeStretch → List α → Option (List α)
  | [], content => some content
  | _ :: _, [] => none
  | .anyOne :: units, _ :: rest => after? units rest
  | .literal c :: units, item :: rest =>
      if agree c item then after? units rest else none

/-- What follows the leftmost place at which a stretch is found. -/
def afterFirst? (stretch : LikeStretch) : List α → Option (List α)
  | [] => after? agree stretch []
  | item :: rest =>
      match after? agree stretch (item :: rest) with
      | some remaining => some remaining
      | none => afterFirst? stretch rest

/-- Whether a text ends with a stretch. -/
def ends (stretch : LikeStretch) (content : List α) : Bool :=
  stretch.length ≤ content.length &&
    (after? agree stretch
      (content.drop (content.length - stretch.length))).isSome

/-- Whether stretches are found one after the other, the last one at the end. -/
def followOn : List LikeStretch → List α → Bool
  | [], content => content.isEmpty
  | [last], content => ends agree last content
  | stretch :: rest, content =>
      match afterFirst? agree stretch content with
      | some remaining => followOn rest remaining
      | none => false

/-- Whether a text is made of stretches with any runs between them. -/
def compose : List LikeStretch → List α → Bool
  | [], content => content.isEmpty
  | [only], content => (after? agree only content).any List.isEmpty
  | first :: rest, content =>
      match after? agree first content with
      | some remaining => followOn agree rest remaining
      | none => false

end LikeStretch

/-- Whether a text matches a pattern, given which characters match. -/
def matchesLike {α : Type} (agree : Char → α → Bool) (pattern : List Char)
    (content : List α) :
    Bool :=
  match LikeStretch.ofPattern? pattern with
  | some stretches => LikeStretch.compose agree stretches content
  | none => false

namespace SqlValue

/-- What a comparison with a pattern sees of a text: it ends before a null
character, and the two code points that are no characters are replaced. -/
def visible (content : String) : List Char :=
  (content.toList.takeWhile (· != '\x00')).map fun c =>
    if c.toNat / 2 == 0x7FFF then '\uFFFD' else c

/-- Whether a code point is that of a character, whatever the case of ASCII
letters. -/
def isPointOf (c : Char) (point : Nat) : Bool :=
  point.isValidChar && Text.sameLetter c (Char.ofNat point)

/-- Whether a cell matches a pattern, whatever the case of ASCII letters;
unknown if it holds nothing. Bytes are compared as the code points that they are
loosely read as. -/
def like (pattern : String) : SqlValue → Truth
  | null => .unknown
  | integer value =>
      .ofBool (matchesLike Text.sameLetter (visible pattern)
        (visible (toString value)))
  | text content =>
      .ofBool (matchesLike Text.sameLetter (visible pattern) (visible content))
  | blob bytes =>
      .ofBool
        (matchesLike isPointOf (visible pattern)
          (Text.loosePoints (bytes.takeWhile (· != 0))))

end SqlValue

end CachedDirectory
