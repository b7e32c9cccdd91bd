import CachedDirectory.Filter.Check

/-!
# Conditions on stored rows

For the store a filter becomes a condition on the cells of an entity row and on
the edges at its key. A condition has a text with a `?` for every value, and the
list of those values; values never enter the text. Every condition stands for
itself, so conditions are joined without further parentheses.
-/

namespace CachedDirectory

/-- A condition on a row of the store. -/
inductive Condition where
  | equals (column : Column) (value : SqlValue)
  | like (column : Column) (pattern : String)
  /-- The column has some value. -/
  | present (column : Column)
  | and (parts : List Condition)
  | or (parts : List Condition)
  | not (part : Condition)
deriving Repr

namespace Condition

/-- The cell in which the store keeps the comparable form of a column; for a
column that comes from edges, the key at the other end of an edge. -/
def cellName : Column → String
  | .type => "e.entity_type"
  | .id => "e.id_key"
  | .description => "e.description_key"
  | .displayName => "e.display_name_key"
  | .firstName => "e.first_name_key"
  | .lastName => "e.last_name_key"
  | .email => "e.email_key"
  | .active => "e.active"
  | .memberOf => "m.group_key"
  | .members => "m.member_key"

/-- The beginning of a condition on the edges of an entity: on those to its
groups, or on those to its members, whatever kind these are of. -/
def edgesOf (column : Column) : String :=
  if column = .memberOf then
    "EXISTS (SELECT 1 FROM cache_memberships m " ++
      "WHERE m.member_type = e.entity_type AND m.member_key = e.id_key"
  else
    "EXISTS (SELECT 1 FROM cache_memberships m WHERE m.group_key = e.id_key"

/-- The text of an equality. A cell that may hold nothing is guarded, so that
its negation is true of the rows without a value. -/
def equalsText (column : Column) : String :=
  let cell := cellName column
  match column.kind with
  | .discriminator | .identifier => cell ++ " = ?"
  | .text | .boolean => "(" ++ cell ++ " IS NOT NULL AND " ++ cell ++ " = ?)"
  | .multiValued => edgesOf column ++ " AND " ++ cell ++ " = ?)"

/-- The text of a comparison with a pattern, guarded like an equality. -/
def likeText (column : Column) : String :=
  let cell := cellName column
  match column.kind with
  | .text => "(" ++ cell ++ " IS NOT NULL AND " ++ cell ++ " LIKE ? ESCAPE '!')"
  | .multiValued => edgesOf column ++ " AND " ++ cell ++ " LIKE ? ESCAPE '!')"
  | .discriminator | .identifier | .boolean => cell ++ " LIKE ? ESCAPE '!'"

/-- The text of the condition that a column has a value. -/
def presentText (column : Column) : String :=
  match column.kind with
  | .discriminator | .identifier => "1=1"
  | .text | .boolean => cellName column ++ " IS NOT NULL"
  | .multiValued => edgesOf column ++ ")"

/-- Joined texts of conditions; one stands alone, none is the given constant. -/
def joinTexts (operator empty : String) : List String → String
  | [] => empty
  | [single] => single
  | several => "(" ++ String.intercalate operator several ++ ")"

mutual

/-- The text of a condition. -/
def text : Condition → String
  | equals column _ => equalsText column
  | like column _ => likeText column
  | present column => presentText column
  | and parts => joinTexts " AND " "1=1" (texts parts)
  | or parts => joinTexts " OR " "1=0" (texts parts)
  | not part => "NOT (" ++ text part ++ ")"

/-- The texts of conditions. -/
def texts : List Condition → List String
  | [] => []
  | part :: rest => text part :: texts rest

end

mutual

/-- The values of a condition, in the order of their places in the text. -/
def values : Condition → List SqlValue
  | equals _ value => [value]
  | like _ pattern => [.text pattern]
  | present _ => []
  | and parts => valuesAll parts
  | or parts => valuesAll parts
  | not part => values part

/-- The values of conditions, one after the other. -/
def valuesAll : List Condition → List SqlValue
  | [] => []
  | part :: rest => values part ++ valuesAll rest

end

/-- A value as it is shown in place of its `?`. -/
def inlineValue : SqlValue → List Char
  | .null => "NULL".toList
  | .integer value => (toString value).toList
  | .text content =>
      '\'' :: Text.replaceEach '\'' ['\'', '\''] content.toList ++ ['\'']
  | .blob bytes => ("<" ++ toString bytes.length ++ " bytes>").toList

/-- The text with each value in turn in the place of the first `?` that is left,
for reading only. -/
def inlined (condition : Condition) : String :=
  String.ofList <|
    condition.values.foldl
      (fun shown value => Text.replaceFirst '?' (inlineValue value) shown)
      condition.text.toList

end Condition

namespace Filter

/-- The stored form of a fragment that may be missing. -/
def storeEdge (converter : Converter) (column : Column) :
    Option String → Answer (Option String)
  | none => .ok none
  | some fragment => do
      let content ← storeText converter column fragment
      return some content

/-- The stored forms of fragments. -/
def storeMiddle (converter : Converter) (column : Column) :
    List String → Answer (List String)
  | [] => .ok []
  | fragment :: rest => do
      let content ← storeText converter column fragment
      let contents ← storeMiddle converter column rest
      return content :: contents

/-- A pattern with the stored form of every fragment. -/
def storePattern (converter : Converter) (column : Column) (pattern : Pattern) :
    Answer Pattern := do
  let initial ← storeEdge converter column pattern.initial
  let middle ← storeMiddle converter column pattern.middle
  let final ← storeEdge converter column pattern.final
  return ⟨initial, middle, final⟩

mutual

/-- The condition on rows of a kind that a filter stands for; the first fault
from the left if it cannot be answered. -/
def condition (scope : EntityKind) (converter : Converter) :
    Filter → Answer Condition
  | equals attr value => do
      let column ← resolveColumn scope attr
      let stored ← storeValue converter column value
      return .equals column stored
  | substring attr pattern => do
      let column ← resolveColumn scope attr
      admitSubstring column
      let stored ← storePattern converter column pattern
      return .like column stored.likeText
  | present attr => do
      let column ← resolveColumn scope attr
      return .present column
  | and parts => do
      let stored ← conditions scope converter parts
      return .and stored
  | or parts => do
      let stored ← conditions scope converter parts
      return .or stored
  | not part => do
      let stored ← condition scope converter part
      return .not stored
  | greaterOrEqual attr _ => .error (orderingFault attr)
  | lessOrEqual attr _ => .error (orderingFault attr)
  | approximate attr _ => .error (approximateFault attr)
  | extensible rule _ _ => .error (extensibleFault rule)

/-- The conditions that filters stand for; the first fault from the left. -/
def conditions (scope : EntityKind) (converter : Converter) :
    List Filter → Answer (List Condition)
  | [] => .ok []
  | part :: rest => do
      let stored ← condition scope converter part
      let storedRest ← conditions scope converter rest
      return stored :: storedRest

end

/-- The condition on rows of a kind, refused for kinds that are not stored. -/
def storedCondition (scope : EntityKind) (converter : Converter)
    (filter : Filter) :
    Answer Condition :=
  if scope.isPersisted then
    filter.condition scope converter
  else
    .error
      (.unsupported
        (scope.name ++
          " entries are not stored and cannot be searched with SQL"))

end Filter

end CachedDirectory
