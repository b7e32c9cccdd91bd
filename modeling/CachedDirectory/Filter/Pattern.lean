import CachedDirectory.Sql.Like
import CachedDirectory.Text.Occurrence

/-!
# Substring patterns

A substring pattern fixes how a value begins and ends and which fragments occur
in between, in order and without overlap. Every part may be missing. The same
pattern is matched directly against a value, fragment by fragment from the left,
and is written as a LIKE pattern for the store.
-/

namespace CachedDirectory

open Text

/-- The parts of a value that a substring filter fixes. -/
structure Pattern where
  initial : Option String
  middle : List String
  final : Option String
deriving DecidableEq, Repr

namespace Pattern

/-- The fragments of a pattern from left to right. -/
def fragments (pattern : Pattern) : List String :=
  pattern.initial.toList ++ pattern.middle ++ pattern.final.toList

/-- The pattern with every fragment changed. -/
def map (change : String → String) (pattern : Pattern) : Pattern :=
  ⟨pattern.initial.map change, pattern.middle.map change,
    pattern.final.map change⟩

/-- What is left of a value after its beginning, if it begins so. -/
def afterInitial? (initial : Option String) (value : List Char) :
    Option (List Char) :=
  match initial with
  | some fragment => fragment.toList.isPrefixOf? value
  | none => some value

/-- What is left of a value after the leftmost occurrences of fragments, one
after the other. -/
def afterMiddle? : List String → List Char → Option (List Char)
  | [], value => some value
  | fragment :: rest, value =>
      (afterFirst? fragment.toList value).bind (afterMiddle? rest)

/-- Whether a value ends so. -/
def endsWith (final : Option String) (value : List Char) : Bool :=
  match final with
  | some fragment => fragment.toList.isSuffixOf value
  | none => true

/-- Whether a value matches: the beginning is cut off, each fragment is taken
where it occurs first, and the rest must end as the pattern does. -/
def accepts (pattern : Pattern) (value : String) : Bool :=
  match (afterInitial? pattern.initial value.toList).bind
    (afterMiddle? pattern.middle) with
  | some rest => endsWith pattern.final rest
  | none => false

/-- A fragment in a LIKE pattern. -/
def likeFragment (fragment : String) : List Char :=
  LikeStretch.escapeText fragment.toList

/-- The fragment that begins or ends a LIKE pattern, if there is one. -/
def likeEdge (edge : Option String) : List Char :=
  match edge with
  | some fragment => likeFragment fragment
  | none => []

/-- The LIKE pattern that accepts the same values. -/
def likeText (pattern : Pattern) : String :=
  String.ofList
    (likeEdge pattern.initial ++
      '%' :: pattern.middle.flatMap
        (fun fragment => likeFragment fragment ++ ['%']) ++
      likeEdge pattern.final)

end Pattern

end CachedDirectory
