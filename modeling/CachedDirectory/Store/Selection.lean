import CachedDirectory.Filter.Limits
import CachedDirectory.Sql.Clause
import CachedDirectory.Sql.Row
import CachedDirectory.Search
import CachedDirectory.Store.Tables

/-!
# Reading the tables

What the statements that read the store mean: which rows a condition selects,
what is shown of a row, how a search and the list of edges are cut into pages,
and which groups a member belongs to through other groups.
-/

namespace CachedDirectory

namespace EntityRow

/-- Whether an edge has this entity as its member. -/
def isMemberOn (row : EntityRow) (edge : EdgeRow) : Truth :=
  (edge.memberKind.equals row.kind).and (edge.memberKey.equals row.key)

/-- Whether an edge has this entity as its group, going by the key alone. -/
def isGroupOn (row : EntityRow) (edge : EdgeRow) : Truth :=
  edge.groupKey.equals row.key

/-- Whether the row is that of a group. -/
def isGroup (row : EntityRow) : Truth :=
  row.kind.equals (.text EntityKind.group.name)

end EntityRow

namespace Tables

/-- Whether some edge has a property for certain. Whether edges exist is never
unknown. -/
def someEdge (tables : Tables) (property : EdgeRow → Truth) : Truth :=
  .ofBool (tables.edges.any fun edge => (property edge).isYes)

/-- The edges that a column of an entity comes from, with the key at their other
end. -/
def edgeKeys (row : EntityRow) (column : Column) (edge : EdgeRow) :
    Truth × SqlValue :=
  if column = .memberOf then
    (row.isMemberOn edge, edge.groupKey)
  else
    (row.isGroupOn edge, edge.memberKey)

/-- Whether the other end of some edge that the column comes from has a
property. -/
def someKey (tables : Tables) (row : EntityRow) (column : Column)
    (property : SqlValue → Truth) :
    Truth :=
  tables.someEdge fun edge =>
    let (belongs, key) := edgeKeys row column edge
    belongs.and (property key)

end Tables

namespace Condition

/-- Whether an equality holds of a row. -/
def equalsHolds (tables : Tables) (row : EntityRow) (column : Column)
    (value : SqlValue) : Truth :=
  let cell := row.comparable column
  match column.kind with
  | .discriminator | .identifier => cell.equals value.asText
  | .text => cell.isPresent.and (cell.equals value.asText)
  | .boolean => row.active.isPresent.and (row.active.equals (.ofValue value))
  | .multiValued => tables.someKey row column fun key => key.equals value.asText

/-- Whether a comparison with a pattern holds of a row. -/
def likeHolds (tables : Tables) (row : EntityRow) (column : Column)
    (pattern : String) : Truth :=
  let cell := row.comparable column
  match column.kind with
  | .text => cell.isPresent.and (cell.like pattern)
  | .multiValued => tables.someKey row column fun key => key.like pattern
  | .discriminator | .identifier | .boolean => cell.like pattern

/-- Whether a row has a value in a column. -/
def presentHolds (tables : Tables) (row : EntityRow) (column : Column) :
    Truth :=
  match column.kind with
  | .discriminator | .identifier => .yes
  | .text => (row.comparable column).isPresent
  | .boolean => row.active.isPresent
  | .multiValued => tables.someKey row column fun _ => .yes

mutual

/-- The truth value of a condition on a row. -/
def holds (tables : Tables) (row : EntityRow) : Condition → Truth
  | equals column value => equalsHolds tables row column value
  | like column pattern => likeHolds tables row column pattern
  | present column => presentHolds tables row column
  | and parts => holdsAll tables row parts
  | or parts => holdsAny tables row parts
  | not part => (holds tables row part).not

/-- The truth value of a conjunction; true if it is empty. -/
def holdsAll (tables : Tables) (row : EntityRow) : List Condition → Truth
  | [] => .yes
  | part :: rest => (holds tables row part).and (holdsAll tables row rest)

/-- The truth value of a disjunction; false if it is empty. -/
def holdsAny (tables : Tables) (row : EntityRow) : List Condition → Truth
  | [] => .no
  | part :: rest => (holds tables row part).or (holdsAny tables row rest)

end

/-- Whether a comparison with a pattern is come to for a row. What the cell of a
text or the edges guard is not compared without them. -/
def comesToLike (tables : Tables) (row : EntityRow) (column : Column) : Bool :=
  match column.kind with
  | .text => (row.comparable column).isPresent.isYes
  | .multiValued => (tables.someKey row column fun _ => .yes).isYes
  | .discriminator | .identifier | .boolean => true

mutual

/-- Whether a pattern that is too long is come to for a row. The parts of a
condition are worked out from the left until its truth value is known. -/
def meetsLong (tables : Tables) (row : EntityRow) : Condition → Bool
  | equals _ _ => false
  | like column pattern => isLong pattern && comesToLike tables row column
  | present _ => false
  | and parts => meetsLongAll tables row parts
  | or parts => meetsLongAny tables row parts
  | not part => meetsLong tables row part

/-- Whether a pattern that is too long is come to in a conjunction. -/
def meetsLongAll (tables : Tables) (row : EntityRow) : List Condition → Bool
  | [] => false
  | part :: rest =>
      meetsLong tables row part ||
        (holds tables row part != .no && meetsLongAll tables row rest)

/-- Whether a pattern that is too long is come to in a disjunction. -/
def meetsLongAny (tables : Tables) (row : EntityRow) : List Condition → Bool
  | [] => false
  | part :: rest =>
      meetsLong tables row part ||
        (holds tables row part != .yes && meetsLongAny tables row rest)

end

end Condition

/-- The bytes of a value that is joined with others. -/
def joinedBytes : SqlValue → List UInt8
  | .null => []
  | .integer value => Text.encodeUtf8 (toString value)
  | .text content => Text.encodeUtf8 content
  | .blob bytes => bytes

/-- The error of reading a text from bytes that are none. -/
def decodingError (bytes : List UInt8) : DirectoryError :=
  let fault := ((Text.utf8Fault? bytes).map Text.Utf8Fault.message).getD ""
  .accessFailure ("error occurred while decoding: " ++ fault)

/-- The text with these bytes. -/
def readJoined (bytes : List UInt8) : Answer SqlValue :=
  match Text.decodeUtf8? bytes with
  | some content => .ok (.text content)
  | none => .error (decodingError bytes)

/-- Several values in one cell, with the separator in between; nothing if there
are no values. The cell is a text also if a value is not. -/
def joinValues (values : List SqlValue) : Answer SqlValue :=
  match values.filter fun value => !value.isNull with
  | [] => .ok .null
  | present =>
      let separator := Text.encodeUtf8 (String.singleton valueSeparator)
      readJoined (List.intercalate separator (present.map joinedBytes))

namespace Tables

/-- The groups with a key; one at most. -/
def groupRows (tables : Tables) (key : SqlValue) : List EntityRow :=
  tables.entityRows (.text EntityKind.group.name) key

/-- The ids of the groups that an entity is directly a member of, in the order
in which its edges were stored. -/
def groupIds (tables : Tables) (row : EntityRow) : List SqlValue :=
  (tables.edges.filter fun edge => (row.isMemberOn edge).isYes).flatMap
    fun edge =>
    (tables.groupRows edge.groupKey).map (·.id)

/-- The ids of the direct members of an entity, if it is a group, in the order
of the edges. -/
def memberIds (tables : Tables) (row : EntityRow) : List SqlValue :=
  let edges :=
    tables.edges.filter fun edge => (row.isGroup.and (row.isGroupOn edge)).isYes
  (edges.mergeSort EdgeRow.le).flatMap fun edge =>
    (tables.entityRows edge.memberKind edge.memberKey).map (·.id)

/-- What a reader receives of an entity row, given the joined ids at the other
ends of its edges. -/
def shown (row : EntityRow) (memberOf members : SqlValue) : ResultRow :=
  ⟨[
    ("entity_type", row.kind.received),
    ("id_key", row.key.received),
    ("id", row.id.received),
    ("description", row.description.received),
    ("display_name", row.displayName.received),
    ("first_name", row.firstName.received),
    ("last_name", row.lastName.received),
    ("email", row.email.received),
    ("active", row.active.received),
    ("sync_version", .integer row.version),
    ("member_of", memberOf),
    ("members", members)
  ]⟩

/-- What a reader receives of an entity row. -/
def project (tables : Tables) (row : EntityRow) : Answer ResultRow := do
  let memberOf ← joinValues (tables.groupIds row)
  let members ← joinValues (tables.memberIds row)
  return shown row memberOf members

/-- What a reader receives of entity rows; nothing if one of them cannot be
read. -/
def projectAll (tables : Tables) : List EntityRow → Answer (List ResultRow)
  | [] => .ok []
  | row :: rest => do
      let result ← tables.project row
      let results ← tables.projectAll rest
      return result :: results

/-- The rows of an entity that a reader receives; one at most. -/
def selectEntity (tables : Tables) (kind key : SqlValue) :
    Answer (List ResultRow) :=
  tables.projectAll (tables.entityRows kind key)

end Tables

/-- A page of a search, in the order of the keys. -/
structure SearchPage where
  scope : EntityKind
  condition : Condition
  /-- The key after which the page begins. -/
  after : Option String
  window : Window
deriving Repr

namespace SearchPage

/-- The statement that reads the page. -/
def statement (page : SearchPage) (dialect : Dialect) : Statement :=
  let continuation := if page.after.isSome then " AND e.id_key > ?" else ""
  let text :=
    Clause.entityProjection dialect ++ " WHERE e.entity_type = ? AND (" ++
      page.condition.text ++
      ")" ++ continuation ++ " ORDER BY e.id_key LIMIT ? OFFSET ?"
  let values :=
    SqlValue.text page.scope.name ::
      (page.condition.values ++ (page.after.map SqlValue.text).toList ++
        [.ofNat page.window.limit, .ofNat page.window.offset])
  Statement.bindAll ⟨text, [], []⟩ values

/-- Reads the condition that the keys come after one, if there is one. -/
def parseAfter (page : SearchPage) (selecting : Statement.Parsed) :
    Answer Statement.Parsed :=
  if page.after.isSome then
    Statement.nextValue selecting >>= Statement.raise
  else
    .ok selecting

/-- Reads the text of the statement. -/
def parse (page : SearchPage) : Answer Statement.Parsed := do
  let scope ← Statement.nextValue ⟨3, 0⟩
  let condition ← page.condition.parse scope.values
  let selecting ←
    Statement.raise ⟨max scope.height condition.height, condition.values⟩
  let continuing ← page.parseAfter selecting
  let limit ← Statement.nextValue continuing
  Statement.nextValue limit

/-- The height of the tree as which the statement is read. -/
def outerHeight (page : SearchPage) : Nat :=
  let selecting := max 3 page.condition.height + 1
  if page.after.isSome then selecting + 1 else selecting

/-- The height of the tree together with the conditions on edges within. -/
def height (page : SearchPage) : Nat :=
  page.outerHeight + page.condition.innerHeight

/-- How many values the statement has. -/
def valueCount (page : SearchPage) : Nat :=
  let selecting := 1 + page.condition.values.length
  let continuing := if page.after.isSome then selecting + 1 else selecting
  continuing + 2

/-- How often the statement takes up the edges: twice for what is shown of a
row. -/
def edgesCount (page : SearchPage) : Nat :=
  page.condition.edgesCount + 2

/-- Prepares the statement, which fails if it is beyond a limit. -/
def prepare (page : SearchPage) : Answer PUnit := do
  let _ ← page.parse
  if Statement.edgesBound < page.edgesCount then
    .error Statement.edgesError
  else if Statement.heightBound < page.height then
    .error Statement.heightError
  else
    return ⟨⟩

/-- Whether a row is one of those that the condition is put to. -/
def concerns (page : SearchPage) (row : EntityRow) : Bool :=
  let later :=
    match page.after with
    | some key => row.key.exceeds (.text key)
    | none => .yes
  (row.kind.equals (.text page.scope.name)).isYes && later.isYes

/-- Whether a row belongs to the result from which the page is cut. -/
def selects (page : SearchPage) (tables : Tables) (row : EntityRow) : Bool :=
  page.concerns row && (page.condition.holds tables row).isYes

/-- The entity rows of the page. -/
def entityRows (page : SearchPage) (tables : Tables) : List EntityRow :=
  let found := tables.entities.filter (page.selects tables)
  Window.cut page.window
    (found.mergeSort fun left right => left.key.le right.key)

/-- The rows up to the last one of a number of rows that are wanted. -/
def takeUntil (wanted : EntityRow → Bool) :
    Nat → List EntityRow → List EntityRow
  | 0, _ => []
  | _, [] => []
  | count + 1, row :: rest =>
      row :: takeUntil wanted (if wanted row then count else count + 1) rest

/-- The rows that the condition is put to, one after the other until the page is
full. -/
def visitedRows (page : SearchPage) (tables : Tables) : List EntityRow :=
  let concerned := tables.entities.filter page.concerns
  takeUntil (page.selects tables) (page.window.offset + page.window.limit)
    (concerned.mergeSort fun left right => left.key.le right.key)

/-- The rows of the page as a reader receives them. Of the limits of the store,
that of a pattern shows only in the rows that are visited. Which ones these are,
and in what order the parts of a condition are worked out for them, the store is
free to choose. Here it takes both as they come. -/
def rows (page : SearchPage) (tables : Tables) : Answer (List ResultRow) := do
  page.prepare
  if (page.visitedRows tables).any fun row =>
    page.condition.meetsLong tables row then
    .error Statement.patternError
  else
    tables.projectAll (page.entityRows tables)

end SearchPage

/-- The key of an edge after which a page of edges begins. -/
structure EdgeKey where
  groupKey : SqlValue
  memberKind : SqlValue
  memberKey : SqlValue
deriving DecidableEq, Repr

namespace EdgeKey

/-- Whether an edge comes after the key; the three cells are compared one after
the other. -/
def precedes (key : EdgeKey) (edge : EdgeRow) : Truth :=
  (edge.groupKey.exceeds key.groupKey).or
    ((edge.groupKey.equals key.groupKey).and
      ((edge.memberKind.exceeds key.memberKind).or
        ((edge.memberKind.equals key.memberKind).and
          (edge.memberKey.exceeds key.memberKey))))

end EdgeKey

namespace Tables

/-- The edge together with the ids at both ends, once for every pair of rows
that it connects. -/
def edgeResults (tables : Tables) (edge : EdgeRow) : List ResultRow :=
  (tables.groupRows edge.groupKey).flatMap fun group =>
    (tables.entityRows edge.memberKind edge.memberKey).map fun member =>
      ⟨[
        ("group_id", group.id.received),
        ("member_type", edge.memberKind.received),
        ("member_id", member.id.received),
        ("group_key", edge.groupKey.received),
        ("member_key", edge.memberKey.received)
      ]⟩

/-- A page of the edges whose ends are stored, in their order; without a limit,
all that are left. -/
def membershipPage (tables : Tables) (after : Option EdgeKey)
    (limit : Option Nat) :
    List ResultRow :=
  let found := tables.edges.filter fun edge =>
    match after with
    | some key => (key.precedes edge).isYes
    | none => true
  let results := (found.mergeSort EdgeRow.le).flatMap tables.edgeResults
  match limit with
  | some length => results.take length
  | none => results

/-- The keys of the groups that a member belongs to directly. -/
def directGroups (tables : Tables) (memberKind memberKey : SqlValue) :
    List SqlValue :=
  ((tables.edges.filter fun edge =>
    (hasMember memberKind memberKey edge).isYes).map
    (·.groupKey)).eraseDups

/-- The keys with those of the groups that these groups belong to directly. -/
def widen (tables : Tables) (known : List SqlValue) : List SqlValue :=
  tables.edges.foldl
    (fun found edge =>
      if (edge.memberKind.equals (.text EntityKind.group.name)).isYes &&
          known.any (fun key => (edge.memberKey.equals key).isYes) &&
          !found.contains edge.groupKey then
        found ++ [edge.groupKey]
      else
        found)
    known

/-- Widens the keys until nothing is new, at most as often as told. -/
def saturate (tables : Tables) : Nat → List SqlValue → List SqlValue
  | 0, known => known
  | rounds + 1, known =>
      let wider := tables.widen known
      if wider.length =
        known.length then known else saturate tables rounds wider

/-- The keys of all groups that a member belongs to, directly or through groups.
Every round but the last finds a group that is new, so there are no more rounds
than edges. -/
def ancestry (tables : Tables) (memberKind memberKey : SqlValue) :
    List SqlValue :=
  tables.saturate tables.edges.length (tables.directGroups memberKind memberKey)

/-- The stored groups that a member belongs to, in the order of their keys. -/
def effectiveGroupRows (tables : Tables) (memberKind memberKey : SqlValue) :
    List EntityRow :=
  let keys := tables.ancestry memberKind memberKey
  let found := tables.entities.filter fun row =>
    row.isGroup.isYes && keys.any fun key => (row.key.equals key).isYes
  found.mergeSort fun left right => left.key.le right.key

end Tables

end CachedDirectory
