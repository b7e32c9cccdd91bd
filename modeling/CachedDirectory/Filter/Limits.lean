import CachedDirectory.Error
import CachedDirectory.Filter.Height

/-!
# Limits of statements

The store refuses a statement whose tree is too high or that has too many
values. It reads the text from left to right, and what it meets first decides
how it refuses. Once the text is read, it refuses to take a table up too often,
and a tree that is too high together with the conditions on edges within. A
pattern that is too long it refuses when it comes to compare with it.
-/

namespace CachedDirectory

namespace Statement

/-- The greatest height of the tree of a statement. -/
def heightBound : Nat :=
  1000

/-- How many values a statement has at most. -/
def valueBound : Nat :=
  32766

/-- How often a statement takes up the table of the edges at most. -/
def edgesBound : Nat :=
  65534

/-- How many bytes a pattern has at most. -/
def patternBound : Nat :=
  50000

/-- The error of a statement that the store refuses. -/
def refused (reason : String) : DirectoryError :=
  .accessFailure ("error returned from database: (code: 1) " ++ reason)

/-- The error of a statement that is too high. -/
def heightError : DirectoryError :=
  refused
    ("Expression tree is too large (maximum depth " ++ toString heightBound ++
      ")")

/-- The error of a statement with too many values. -/
def valueError : DirectoryError :=
  refused "too many SQL variables"

/-- The error of a statement that takes up the edges too often. -/
def edgesError : DirectoryError :=
  refused "too many references to \"cache_memberships\": max 65535"

/-- The error of a comparison with a pattern that is too long. -/
def patternError : DirectoryError :=
  refused "LIKE or GLOB pattern too complex"

/-- What was read of a statement. -/
structure Parsed where
  /-- The height of the tree. -/
  height : Nat
  /-- How many values there were. -/
  values : Nat
deriving DecidableEq, Repr

/-- Reads a value of what has a tree already. -/
def nextValue (parsed : Parsed) : Answer Parsed :=
  if parsed.values < valueBound then
    .ok { parsed with values := parsed.values + 1 }
  else
    .error valueError

/-- Puts an operator above what was read. -/
def raise (parsed : Parsed) : Answer Parsed :=
  if parsed.height < heightBound then
    .ok { parsed with height := parsed.height + 1 }
  else
    .error heightError

end Statement

namespace Condition

open Statement (Parsed)

mutual

/-- Reads the text of a condition after a number of values. -/
def parse (values : Nat) : Condition → Answer Parsed
  | equals column _ => Statement.nextValue ⟨equalsHeight column, values⟩
  | like column _ => Statement.nextValue ⟨likeHeight column, values⟩
  | present column => .ok ⟨presentHeight column, values⟩
  | and parts => parseJoined values parts
  | or parts => parseJoined values parts
  | not part => parse values part >>= Statement.raise

/-- Reads the texts of joined conditions. -/
def parseJoined (values : Nat) : List Condition → Answer Parsed
  | [] => .ok ⟨2, values⟩
  | part :: rest => do
      let parsed ← parse values part
      parseRest parsed rest

/-- Reads the texts of the conditions that are joined with what was read. -/
def parseRest (before : Parsed) : List Condition → Answer Parsed
  | [] => .ok before
  | part :: rest => do
      let parsed ← parse before.values part
      let joined ←
        Statement.raise ⟨max before.height parsed.height, parsed.values⟩
      parseRest joined rest

end

mutual

/-- How often the text of a condition takes up the edges. -/
def edgesCount : Condition → Nat
  | equals column _ | like column _ | present column =>
      if column.kind = .multiValued then 1 else 0
  | and parts | or parts => edgesCountAll parts
  | not part => edgesCount part

/-- How often the texts of conditions take up the edges. -/
def edgesCountAll : List Condition → Nat
  | [] => 0
  | part :: rest => edgesCount part + edgesCountAll rest

end

mutual

/-- The patterns in a condition. -/
def patterns : Condition → List String
  | equals _ _ => []
  | like _ pattern => [pattern]
  | present _ => []
  | and parts => patternsAll parts
  | or parts => patternsAll parts
  | not part => patterns part

/-- The patterns in conditions. -/
def patternsAll : List Condition → List String
  | [] => []
  | part :: rest => patterns part ++ patternsAll rest

end

/-- Whether a pattern is too long. -/
def isLong (pattern : String) : Bool :=
  Statement.patternBound < pattern.utf8ByteSize

end Condition

end CachedDirectory
