import CachedDirectory.Proofs.KeyOrder

/-!
# Pages after a key

A search and the list of edges are read in the order of keys, and each page goes
on after the key of the last row of the page before. So a page is told by that
key and by the tables as they are when it is read, whatever they were when the
key was read.
-/

namespace CachedDirectory

open Text

/-- Rows that are read page by page in the order of their keys. -/
structure Keyset (ρ κ α : Type) where
  source : PageSource α
  /-- The rows that are there to be read. -/
  found : Tables → List ρ
  keyOf : ρ → κ
  before : κ → κ → Prop
  /-- What a reader receives of a row. -/
  result : Tables → ρ → ResultRow
  /-- Whether a page of a length is full unless it is the last one that the
  tables give. -/
  fits : Nat → Tables → Prop

namespace Keyset

variable {ρ κ α : Type}

/-- Whether the rows after a key, or all of them, are cut into a page and those
that are left. -/
structure Cuts (keyset : Keyset ρ κ α) (tables : Tables) (after : Option κ)
    (length : Nat) (taken rest : List ρ) : Prop where
  mem_iff : ∀ row, row ∈ taken ++ rest ↔
    row ∈ keyset.found tables ∧ ∀ key ∈ after,
      keyset.before key (keyset.keyOf row)
  increasing : ((taken ++ rest).map keyset.keyOf).Pairwise keyset.before
  full : keyset.fits length tables → taken.length < length → rest = []

/-- Whether a page that was read holds the first of the rows after a key, or of
all of them. -/
def Reads (keyset : Keyset ρ κ α) (tables : Tables) (after : Option κ)
    (length : Nat) (rows : List ResultRow) : Prop :=
  ∃ taken rest,
    rows = taken.map (keyset.result tables) ∧
      keyset.Cuts tables after length taken rest

/-- Whether the keys are in a strict order and the pages follow it, each after a
row of whatever tables it was that the page before was read from. -/
structure IsOrdered (keyset : Keyset ρ κ α) : Prop where
  irrefl : ∀ key, ¬keyset.before key key
  trans :
    ∀ {first second third},
      keyset.before first second → keyset.before second third →
    keyset.before first third
  first :
    ∀ {tables : Tables} {length : Nat} {rows : List ResultRow}, tables.Sound →
    keyset.source.page none ⟨0, length⟩ tables = .ok rows →
      keyset.Reads tables none length rows
  next :
    ∀ {earlier tables : Tables} {last : ρ} {length : Nat}
      {rows : List ResultRow},
    earlier.Sound → last ∈ keyset.found earlier → tables.Sound →
      keyset.source.page (some (keyset.result earlier last)) ⟨0, length⟩
        tables = .ok rows →
        keyset.Reads tables (some (keyset.keyOf last)) length rows

/-- A sorted list of the rows is cut into the first ones and those that are
left. -/
theorem cuts_of_sorted {keyset : Keyset ρ κ α} {tables : Tables}
    {after : Option κ} {length count : Nat} {sorted : List ρ}
    (increasing : (sorted.map keyset.keyOf).Pairwise keyset.before)
    (mem_iff :
      ∀ row,
        row ∈ sorted ↔ row ∈ keyset.found tables ∧ ∀ key ∈ after,
          keyset.before key (keyset.keyOf row))
    (enough :
      keyset.fits length tables → count < length → sorted.length ≤ count) :
    keyset.Cuts tables after length (sorted.take count)
      (sorted.drop count) where
  mem_iff := by rwa [List.take_append_drop]
  increasing := by rwa [List.take_append_drop]
  full small short := by
    rw [List.length_take] at short
    apply List.drop_eq_nil_of_le
    by_cases bounded : count < length
    · exact enough small bounded
    · omega

end Keyset

namespace Tables

variable {tables : Tables}

/-! ## Searches -/

/-- The rows of a search after a key, in order. -/
def matchingAfter (tables : Tables) (scope : EntityKind) (condition : Condition)
    (after : Option String) : List EntityRow :=
  (tables.entities.filter
    (SearchPage.selects ⟨scope, condition, after, ⟨0, 0⟩⟩ tables)).mergeSort
    fun left right => left.key.le right.key

variable {scope : EntityKind} {condition : Condition} {after : Option String}

/-- A page of a search selects, of the rows of its result, those after its
key. -/
theorem selects_iff {row : EntityRow} {id : String} (key : row.key = .text id)
    (window : Window) :
    SearchPage.selects ⟨scope, condition, after, window⟩ tables row = true ↔
      (row.kind.equals (.text scope.name)).isYes = true ∧
        (∀ key ∈ after.map SqlValue.text, key.Before row.key) ∧
          (condition.holds tables row).isYes = true := by
  cases after with
  | none => simp [SearchPage.selects, SearchPage.concerns]
  | some last =>
      have later : (row.key.exceeds (.text last)).isYes = true ↔
          (SqlValue.text last).Before row.key :=
            SqlValue.isYes_exceeds_iff rfl key
      simp [SearchPage.selects, SearchPage.concerns, later, and_assoc]

theorem mem_matchingAfter (sound : tables.Sound) {row : EntityRow} :
    row ∈ tables.matchingAfter scope condition after ↔
      row ∈ tables.matching scope condition ∧
        ∀ key ∈ after.map SqlValue.text, key.Before row.key := by
  rw [matchingAfter, (List.mergeSort_perm _ _).mem_iff, List.mem_filter,
    matching, rowsOfKind, List.mem_filter, List.mem_filter]
  constructor
  · rintro ⟨stored, selected⟩
    obtain ⟨_, _, key⟩ := (sound.isRecord row stored).exists_id
    obtain ⟨kind, later, holds⟩ := (selects_iff key _).mp selected
    exact ⟨⟨⟨stored, kind⟩, holds⟩, later⟩
  · rintro ⟨⟨⟨stored, kind⟩, holds⟩, later⟩
    obtain ⟨_, _, key⟩ := (sound.isRecord row stored).exists_id
    exact ⟨stored, (selects_iff key _).mpr ⟨kind, later, holds⟩⟩

theorem pairwise_matchingAfter (sound : tables.Sound) :
    ((tables.matchingAfter scope condition after).map EntityRow.key).Pairwise
        SqlValue.Before := by
  rw [List.pairwise_map]
  have sameKind : ∀ row ∈ tables.entities.filter
      (SearchPage.selects ⟨scope, condition, after, ⟨0, 0⟩⟩ tables),
        row.kind = .text scope.name := by
    intro row member
    have selected := List.of_mem_filter member
    rw [SearchPage.selects, SearchPage.concerns, Bool.and_eq_true,
      Bool.and_eq_true] at selected
    simpa using selected.1.1
  refine (sound.pairwise_mergeSort List.filter_sublist sameKind).imp ?_
  intro left right before
  refine ⟨le_of_keyBefore before, ?_⟩
  obtain ⟨smaller, larger, leftKey, rightKey, less⟩ := before
  rw [leftKey, rightKey]
  intro same
  cases same
  exact String.lt_irrefl _ less

/-- A page of a search that can be read holds the first of the rows after its
key. -/
theorem rows_eq_ok (sound : tables.Sound) {length : Nat} {rows : List ResultRow}
    (read :
      SearchPage.rows ⟨scope, condition, after, ⟨0, length⟩⟩ tables =
        .ok rows) :
    rows = ((tables.matchingAfter scope condition after).take length).map
        tables.result := by
  have shown := SearchPage.projectAll_of_rows read
  rw [sound.projectAll_eq] at shown
  cases shown
  rfl

/-! ## Edges -/

/-- What a reader receives of an edge whose ends are stored. -/
def edgeResult (tables : Tables) (edge : EdgeRow) : ResultRow :=
  (tables.edgeResults edge).head?.getD ⟨[]⟩

/-- At a place that is taken there is one row. -/
theorem Sound.exists_entityRows_eq (sound : tables.Sound) {kind key : SqlValue}
    (taken : (kind, key) ∈ tables.places) :
    ∃ row, tables.entityRows kind key = [row] := by
  obtain ⟨⟨found, member⟩, _⟩ := sound.areEnds taken
  obtain ⟨name, content, rfl, rfl⟩ := sound.exists_texts taken
  have distinct :
      ((tables.entityRows (.text name) (.text content)).map
          EntityRow.place).Nodup :=
    sound.nodup_places.sublist (List.filter_sublist.map _)
  have same :
      (tables.entityRows (.text name) (.text content)).map EntityRow.place =
        List.replicate _ (.text name, .text content) :=
    List.map_eq_replicate_iff.mpr fun row listed =>
      (mem_entityRows_iff.mp listed).2
  rw [same, List.nodup_replicate] at distinct
  have positive := List.length_pos_of_mem member
  exact List.length_eq_one_iff.mp (by omega)

/-- The edges whose ends are stored are read with their ids, and each once. -/
theorem Sound.edgeResults_eq (sound : tables.Sound) {edge : EdgeRow}
    (stored : edge ∈ tables.edges) :
    tables.edgeResults edge = [tables.edgeResult edge] ∧
      EdgeKey.ofRow? (tables.edgeResult edge) =
        some ⟨edge.groupKey, edge.memberKind, edge.memberKey⟩ := by
  obtain ⟨groupTaken, memberTaken⟩ := sound.ends edge stored
  obtain ⟨group, groups⟩ := sound.exists_entityRows_eq groupTaken
  obtain ⟨member, members⟩ := sound.exists_entityRows_eq memberTaken
  obtain ⟨_, groupKey, _, groupText⟩ := sound.exists_texts groupTaken
  obtain ⟨memberKind, memberKey, kindText, memberText⟩ :=
    sound.exists_texts memberTaken
  have results : tables.edgeResults edge =
      [⟨[
        ("group_id", group.id.received),
          ("member_type", edge.memberKind.received),
        ("member_id", member.id.received),
          ("group_key", edge.groupKey.received),
        ("member_key", edge.memberKey.received)]⟩] := by
    rw [edgeResults, groupRows, groups, members]
    rfl
  rw [edgeResult, results]
  refine ⟨rfl, ?_⟩
  rw [groupText, kindText, memberText]
  rfl

/-- The comparison of three cells that is spelled out in a page is the order of
the edges. -/
theorem isYes_precedes_iff {earlier : Tables} (earlierSound : earlier.Sound)
    {last edge : EdgeRow} (read : last ∈ earlier.edges) (sound : tables.Sound)
    (stored : edge ∈ tables.edges) :
    (EdgeKey.precedes ⟨last.groupKey, last.memberKind, last.memberKey⟩
      edge).isYes = true ↔
      last.Before edge := by
  obtain ⟨groupKey, memberKind, memberKey, rfl⟩ :=
    earlierSound.exists_edge_texts read
  obtain ⟨otherGroup, otherKind, otherKey, rfl⟩ :=
    sound.exists_edge_texts stored
  rw [EdgeKey.precedes, EdgeRow.before_iff]
  simp only [Truth.isYes_or, Truth.isYes_and, Bool.or_eq_true, Bool.and_eq_true,
    SqlValue.isYes_exceeds_iff rfl rfl, SqlValue.isYes_equals_text,
    decide_eq_true_eq]
  rw [eq_comm (a := SqlValue.text otherGroup),
    eq_comm (a := SqlValue.text otherKind)]

/-- The edges after an edge, in order. -/
def edgesAfter (tables : Tables) (after : Option EdgeRow) : List EdgeRow :=
  (tables.edges.filter fun edge =>
    match after with
    | some last =>
        (EdgeKey.precedes ⟨last.groupKey, last.memberKind, last.memberKey⟩
          edge).isYes
    | none => true).mergeSort EdgeRow.le

theorem mem_edgesAfter (sound : tables.Sound) {after : Option EdgeRow}
    (read :
      ∀ last ∈ after, ∃ earlier : Tables, earlier.Sound ∧ last ∈ earlier.edges)
    {edge : EdgeRow} :
    edge ∈ tables.edgesAfter after ↔
      edge ∈ tables.edges ∧ ∀ last ∈ after, last.Before edge := by
  rw [edgesAfter, (List.mergeSort_perm _ _).mem_iff, List.mem_filter]
  apply and_congr_right
  intro stored
  cases after with
  | none => simp
  | some last =>
      obtain ⟨earlier, earlierSound, member⟩ := read last rfl
      simpa using isYes_precedes_iff earlierSound member sound stored

theorem pairwise_edgesAfter (sound : tables.Sound) (after : Option EdgeRow) :
    (tables.edgesAfter after).Pairwise EdgeRow.Before := by
  have sorted := @List.pairwise_mergeSort _ EdgeRow.le
    (fun _ _ _ before after => EdgeRow.le_trans before after) EdgeRow.le_total
  have distinct : (tables.edgesAfter after).Nodup :=
    (List.mergeSort_perm _ _).nodup_iff.mpr
      (sound.nodup_edges.sublist List.filter_sublist)
  exact (sorted _).and distinct

/-- A page of the edges holds the first of the edges after its key. -/
theorem membershipPage_eq (sound : tables.Sound) (after : Option EdgeRow)
    (length : Nat) :
    tables.membershipPage
        (after.map fun last => ⟨last.groupKey, last.memberKind, last.memberKey⟩)
          (some length) =
      ((tables.edgesAfter after).take length).map tables.edgeResult := by
  have stored : ∀ edge ∈ tables.edgesAfter after, edge ∈ tables.edges := by
    intro edge member
    exact List.mem_of_mem_filter ((List.mergeSort_perm _ _).mem_iff.mp member)
  have results : (tables.edgesAfter after).flatMap tables.edgeResults =
      (tables.edgesAfter after).map tables.edgeResult := by
    rw [List.map_eq_flatMap]
    exact List.flatMap_congr fun edge member =>
      (sound.edgeResults_eq (stored edge member)).1
  have page : tables.membershipPage
      (after.map fun last => ⟨last.groupKey, last.memberKind, last.memberKey⟩)
        (some length) =
        ((tables.edgesAfter after).flatMap tables.edgeResults).take length := by
    cases after <;> rfl
  rw [page, results, List.map_take]

end Tables

/-! ## Keysets -/

namespace Keyset

/-- The rows of a search in the order of their keys. -/
def ofSearch (converter : Converter) (scope : EntityKind)
    (condition : Condition) :
    Keyset EntityRow SqlValue Entity where
  source := searchSource converter scope condition
  found tables := tables.matching scope condition
  keyOf := EntityRow.key
  before := SqlValue.Before
  result := Tables.result
  fits _ _ := True

/-- The edges in their order. Only so many of them are asked for at once as a
number can count. -/
def ofEdges : Keyset EdgeRow EdgeRow Membership where
  source := edgeSource
  found := Tables.edges
  keyOf edge := edge
  before := EdgeRow.Before
  result := Tables.edgeResult
  fits length tables :=
    length ≤ SqlValue.maxInteger ∨ tables.edges.length ≤ SqlValue.maxInteger

theorem reads_ofSearch {converter : Converter} {scope : EntityKind}
    {condition : Condition} {tables : Tables} (sound : tables.Sound)
    {after : Option String} {length : Nat} {rows : List ResultRow}
    (read :
      SearchPage.rows ⟨scope, condition, after, ⟨0, length⟩⟩ tables =
        .ok rows) :
    (ofSearch converter scope condition).Reads tables (after.map .text) length
        rows := by
  refine ⟨_, _, Tables.rows_eq_ok sound read, cuts_of_sorted ?_ ?_ ?_⟩
  · exact Tables.pairwise_matchingAfter sound
  · exact fun row => Tables.mem_matchingAfter sound
  · exact fun _ short => absurd short (Nat.lt_irrefl length)

theorem isOrdered_ofSearch (converter : Converter) (scope : EntityKind)
    (condition : Condition) :
    (ofSearch converter scope condition).IsOrdered where
  irrefl key before := before.2 rfl
  trans before after := before.trans after
  first sound read := reads_ofSearch sound read
  next {earlier tables last length rows} earlierSound found sound read := by
    have stored : last ∈ earlier.entities :=
      List.mem_of_mem_filter (List.mem_of_mem_filter found)
    obtain ⟨id, _, key⟩ := (earlierSound.isRecord last stored).exists_id
    have keyed : (earlier.result last).text? "id_key" = some (fold id) :=
      Tables.text?_id_key_result key
    have page :
        SearchPage.rows ⟨scope, condition,
          (earlier.result last).text? "id_key", ⟨0, length⟩⟩ tables =
            .ok rows :=
      read
    rw [keyed] at page
    have reads := @reads_ofSearch converter scope condition _ sound _ _ _ page
    rw [Option.map_some, ← key] at reads
    exact reads

theorem reads_ofEdges {tables : Tables} (sound : tables.Sound)
    {after : Option EdgeRow}
    (earlier :
      ∀ last ∈ after, ∃ earlier : Tables, earlier.Sound ∧ last ∈ earlier.edges)
    (length : Nat) :
    ofEdges.Reads tables after length
      (tables.membershipPage
        (after.map fun last => ⟨last.groupKey, last.memberKind, last.memberKey⟩)
        (some (min length SqlValue.maxInteger))) := by
  refine ⟨_, _, Tables.membershipPage_eq sound after _, cuts_of_sorted ?_ ?_ ?_⟩
  · rw [List.pairwise_map]
    exact Tables.pairwise_edgesAfter sound after
  · exact fun edge => Tables.mem_edgesAfter sound earlier
  · intro small short
    have fewer : (tables.edgesAfter after).length ≤ tables.edges.length := by
      rw [Tables.edgesAfter, List.length_mergeSort]
      exact List.length_filter_le _ _
    have bounded :
        length ≤ SqlValue.maxInteger ∨
            tables.edges.length ≤ SqlValue.maxInteger :=
      small
    omega

theorem isOrdered_ofEdges : ofEdges.IsOrdered where
  irrefl edge before := before.2 rfl
  trans before after := before.trans after
  first {tables length rows} sound read := by
    cases read
    exact @reads_ofEdges _ sound none (fun _ none => nomatch none) length
  next {earlier tables last length rows} earlierSound found sound read := by
    have stored : last ∈ earlier.edges := found
    have key : EdgeKey.ofRow? (earlier.edgeResult last) =
        some ⟨last.groupKey, last.memberKind, last.memberKey⟩ :=
      (earlierSound.edgeResults_eq stored).2
    have page : tables.membershipPage (EdgeKey.ofRow? (earlier.edgeResult last))
        (some (min length SqlValue.maxInteger)) = rows := Except.ok.inj read
    rw [← page, key]
    refine @reads_ofEdges _ sound (some last) ?_ length
    intro edge same
    cases same
    exact ⟨earlier, earlierSound, stored⟩

end Keyset

end CachedDirectory
