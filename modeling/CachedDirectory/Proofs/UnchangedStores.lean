import CachedDirectory.Cursor.Channel
import CachedDirectory.Proofs.OpenCursors
import CachedDirectory.Proofs.PagedResults
import CachedDirectory.Proofs.Rebuilding
import CachedDirectory.Proofs.StoredLookups

/-!
# Stores that do not change

As long as a store does not change, nothing of the pages of a cursor shows in
what it gives: the rows of a search, or the edges, in the order of their keys
and each once, cut by the window alone. Only the store can tell a page from the
first one. The statement of a page after a key is a tree that is one higher and
has one more value, which can be one too high or one too many.
-/

namespace CachedDirectory

/-! ## Searches -/

/-- Whether the pages of a search are within the limits of the store: the first
page, which is read unless the window is empty, and later pages if the first one
does not hold all rows that the window allows. -/
structure SearchRequest.StaysWithin (request : SearchRequest)
    (condition : Condition) (bufferSize : Nat) (rows : List EntityRow) :
    Prop where
  first : request.window.map (·.limit) ≠ some 0 → ∀ window,
    SearchPage.IsWithinLimits ⟨request.scope, condition, none, window⟩
  later : bufferSize ≤ (Window.cut request.window rows).length →
    (∀ part ∈ request.window, bufferSize < part.limit) → ∀ key window,
      SearchPage.IsWithinLimits ⟨request.scope, condition, some key, window⟩

theorem Condition.Fits.staysWithin {request : SearchRequest}
    {condition : Condition} (fits : condition.Fits request.scope)
    (bufferSize : Nat) (rows : List EntityRow) :
    request.StaysWithin condition bufferSize rows :=
  ⟨fun _ => fits none, fun _ _ key => fits (some key)⟩

namespace Tables

variable {tables : Tables} {scope : EntityKind} {condition : Condition}
  {after : Option String}

theorem Sound.rows_eq (sound : tables.Sound) {window : Window}
    (within : SearchPage.IsWithinLimits ⟨scope, condition, after, window⟩) :
    SearchPage.rows ⟨scope, condition, after, window⟩ tables =
      .ok ((Window.cut (some window)
        (tables.matchingAfter scope condition after)).map
        tables.result) := by
  rw [SearchPage.rows_eq within, sound.projectAll_eq]
  rfl

theorem Sound.page_search (sound : tables.Sound) (converter : Converter)
    (within :
      ∀ window, SearchPage.IsWithinLimits ⟨scope, condition, none, window⟩)
    (window : Window) :
    (searchSource converter scope condition).page none window tables =
      .ok ((Window.cut (some window)
        (tables.matchingAfter scope condition none)).map
        tables.result) :=
  sound.rows_eq (within window)

theorem Sound.lists_matchingAfter (sound : tables.Sound)
    (converter : Converter) :
    (Keyset.ofSearch converter scope condition).Lists tables
      (tables.matchingAfter scope condition none) where
  mem_iff row := by
    rw [mem_matchingAfter sound]
    exact and_iff_left (by simp)
  increasing := pairwise_matchingAfter sound

theorem length_matchingAfter_le :
    (tables.matchingAfter scope condition after).length ≤
      tables.entities.length + tables.edges.length := by
  rw [matchingAfter, List.length_mergeSort]
  exact (List.length_filter_le _ _).trans (Nat.le_add_right _ _)

/-- The pages after a key go on in the rows of a search if their statements are
accepted. -/
theorem Sound.goesOn_search (sound : tables.Sound) (converter : Converter)
    (within :
      ∀ key window,
        SearchPage.IsWithinLimits ⟨scope, condition, some key, window⟩)
    (longest : Nat) :
    PageFeed.GoesOn (searchSource converter scope condition) tables
      ((tables.matchingAfter scope condition none).map tables.result)
          longest := by
  have keyed : ∀ row ∈ tables.matching scope condition,
      ∃ key,
          row.key = .text key ∧
              (tables.result row).text? "id_key" = some key := by
    intro row found
    have stored : row ∈ tables.entities :=
      List.mem_of_mem_filter (List.mem_of_mem_filter found)
    obtain ⟨id, _, key⟩ := (sound.isRecord row stored).exists_id
    exact ⟨_, key, text?_id_key_result key⟩
  apply (sound.lists_matchingAfter converter).goesOn
    (Keyset.isOrdered_ofSearch _ _ _)
    fun row =>
      tables.matchingAfter scope condition ((tables.result row).text? "id_key")
  · exact fun row => pairwise_matchingAfter sound
  · intro row found other
    obtain ⟨key, cell, read⟩ := keyed row found
    rw [read, mem_matchingAfter sound]
    show _ ↔ _ ∧ row.key.Before other.key
    simp [Keyset.ofSearch, cell]
  · intro row found length _
    obtain ⟨key, _, read⟩ := keyed row found
    show SearchPage.rows
      ⟨scope, condition, (tables.result row).text? "id_key", ⟨0, length⟩⟩
      tables = _
    rw [read]
    exact sound.rows_eq (within key _)

/-! ## Edges -/

theorem length_edgesAfter_le (tables : Tables) (after : Option EdgeRow) :
    (tables.edgesAfter after).length ≤ tables.edges.length := by
  rw [edgesAfter, List.length_mergeSort]
  exact List.length_filter_le _ _

/-- The edges after an edge are not cut shorter than asked if they can be
counted. -/
theorem take_edgesAfter {length : Nat}
    (fits :
      length ≤ SqlValue.maxInteger ∨ tables.edges.length ≤ SqlValue.maxInteger)
    (after : Option EdgeRow) :
    (tables.edgesAfter after).take (min length SqlValue.maxInteger) =
      (tables.edgesAfter after).take length := by
  have atMost := tables.length_edgesAfter_le after
  rcases fits with small | few
  · rw [Nat.min_eq_left small]
  · rw [List.take_eq_take_iff]
    omega

theorem Sound.pairwise_edgeKeys (sound : tables.Sound)
    (after : Option EdgeRow) :
    ((tables.edgesAfter after).map Keyset.ofEdges.keyOf).Pairwise
        Keyset.ofEdges.before := by
  have same :
      (tables.edgesAfter after).map Keyset.ofEdges.keyOf =
          tables.edgesAfter after :=
    List.map_id _
  rw [same]
  exact pairwise_edgesAfter sound after

theorem Sound.lists_edgesAfter (sound : tables.Sound) :
    Keyset.ofEdges.Lists tables (tables.edgesAfter none) where
  mem_iff edge := by
    rw [mem_edgesAfter sound (by simp)]
    exact and_iff_left (by simp)
  increasing := sound.pairwise_edgeKeys none

theorem Sound.page_edges (sound : tables.Sound) {length : Nat}
    (fits : Keyset.ofEdges.fits length tables) :
    edgeSource.page none ⟨0, length⟩ tables =
      .ok (((tables.edgesAfter none).take length).map tables.edgeResult) := by
  have page := membershipPage_eq sound none (min length SqlValue.maxInteger)
  rw [take_edgesAfter fits] at page
  exact congrArg Except.ok page

/-- The pages after an edge go on in the edges. -/
theorem Sound.goesOn_edges (sound : tables.Sound) {longest : Nat}
    (fits : Keyset.ofEdges.fits longest tables) :
    PageFeed.GoesOn edgeSource tables
      ((tables.edgesAfter none).map tables.edgeResult)
      longest := by
  apply sound.lists_edgesAfter.goesOn Keyset.isOrdered_ofEdges
    fun edge => tables.edgesAfter (some edge)
  · exact fun edge => sound.pairwise_edgeKeys (some edge)
  · intro edge stored other
    have read :
        ∀ last ∈ some edge,
            ∃ earlier : Tables, earlier.Sound ∧ last ∈ earlier.edges := by
      intro last same
      cases same
      exact ⟨tables, sound, stored⟩
    rw [mem_edgesAfter sound read]
    simp [Keyset.ofEdges]
  · intro edge stored length short
    have counted :
        length ≤ SqlValue.maxInteger ∨
            tables.edges.length ≤ SqlValue.maxInteger :=
      fits.imp_left short.trans
    have page :=
      membershipPage_eq sound (some edge) (min length SqlValue.maxInteger)
    rw [take_edgesAfter counted] at page
    show Except.ok
      (tables.membershipPage (EdgeKey.ofRow? (tables.edgeResult edge))
      (some (min length SqlValue.maxInteger))) = _
    rw [(sound.edgeResults_eq stored).2]
    exact congrArg Except.ok page

/-- Whether a membership is an edge, with both ends as they are spelled where
they are stored. -/
structure Spells (tables : Tables) (edge : EdgeRow) (membership : Membership) :
    Prop where
  kind : edge.memberKind = .text membership.memberKind.name
  group :
    ∃ row ∈ tables.entities,
      row.place = edge.groupPlace ∧ row.id = .text membership.groupId
  member : ∃ row ∈ tables.entities,
    row.place = edge.memberPlace ∧ row.id = .text membership.memberId

theorem Sound.exists_membership (sound : tables.Sound) {edge : EdgeRow}
    (stored : edge ∈ tables.edges) :
    ∃ membership, Membership.ofRow (tables.edgeResult edge) = .ok membership ∧
      tables.Spells edge membership := by
  obtain ⟨groupTaken, memberTaken⟩ := sound.ends edge stored
  obtain ⟨group, groups⟩ := sound.exists_entityRows_eq groupTaken
  obtain ⟨member, members⟩ := sound.exists_entityRows_eq memberTaken
  obtain ⟨groupKey, kindName, memberKey, rfl⟩ := sound.exists_edge_texts stored
  have groupFound :
      group ∈ tables.entityRows (.text EntityKind.group.name)
          (.text groupKey) := by
    simp [groups]
  have memberFound :
      member ∈ tables.entityRows (.text kindName) (.text memberKey) := by
    simp [members]
  obtain ⟨groupStored, groupPlace⟩ := mem_entityRows_iff.mp groupFound
  obtain ⟨memberStored, memberPlace⟩ := mem_entityRows_iff.mp memberFound
  obtain ⟨groupId, groupText, _⟩ := (sound.isRecord group groupStored).exists_id
  obtain ⟨memberId, memberText, _⟩ :=
    (sound.isRecord member memberStored).exists_id
  have result :
      tables.edgeResult ⟨.text groupKey, .text kindName, .text memberKey⟩ =
        ⟨[
          ("group_id", .text groupId), ("member_type", .text kindName),
          ("member_id", .text memberId), ("group_key", .text groupKey),
          ("member_key", .text memberKey)]⟩ := by
    rw [edgeResult, edgeResults, groupRows, groups, members]
    simp [groupText, memberText, SqlValue.received]
  have kind : ∃ kind : MemberKind, kindName = kind.name := by
    have placed : member.kind = .text kindName := congrArg Prod.fst memberPlace
    cases sound.isRecord member memberStored with
    | group => exact ⟨.group, (SqlValue.text.inj placed).symm⟩
    | user => exact ⟨.user, (SqlValue.text.inj placed).symm⟩
  obtain ⟨kind, rfl⟩ := kind
  have parsed : MemberKind.parse? kind.name = some kind := by
    cases kind <;> decide
  refine ⟨⟨groupId, kind, memberId⟩, ?_, rfl,
    ⟨group, groupStored, groupPlace, groupText⟩,
    member, memberStored, memberPlace, memberText⟩
  have named :
    (tables.edgeResult ⟨.text groupKey, .text kind.name, .text memberKey⟩).text?
      "member_type" = some kind.name := by
    rw [result]
    rfl
  rw [Membership.ofRow, named, Option.bind_some, parsed, result]
  rfl

end Tables

/-! ## Cursors over a store that does not change -/

/-- Whether an entity is that of a row. -/
def EntityRow.Shows (row : EntityRow) (entity : Entity) : Prop :=
  row.kind = .text entity.kind.name ∧ row.id = .text entity.id

theorem Tables.Sound.exists_entity {tables : Tables} (sound : tables.Sound)
    {row : EntityRow} (stored : row ∈ tables.entities) :
    ∃ entity,
        Entity.ofRow .standard (tables.result row) = .ok entity ∧
            row.Shows entity := by
  cases sound.isRecord row stored with
  | group group version =>
      exact ⟨_, ofRow_group tables _ group version, rfl, rfl⟩
  | user user version => exact ⟨_, ofRow_user tables _ user version, rfl, rfl⟩

namespace Replica

variable {replica : Replica} {tables : Tables} {request : SearchRequest}
  {condition : Condition}

theorem limit_ne_zero {window : Option Window}
    (asked : PageFeed.firstLength window replica ≠ 0) :
    window.map (·.limit) ≠ some 0 := by
  intro empty
  apply asked
  rw [PageFeed.firstLength, empty]
  exact Nat.zero_min replica.bufferSize

theorem run_search_of_start {feed : PageFeed Entity}
    (translated :
      request.filter.storedCondition request.scope replica.converter =
        .ok condition)
    (started :
      PageFeed.start (searchSource replica.converter request.scope condition)
        request.window replica = .ok feed) :
    (search request).run replica = (.ok (.paged (.ofFeed feed)), replica) := by
  have persisted : request.scope.isPersisted = true := by
    by_contra fixed
    rw [Filter.storedCondition, if_neg fixed] at translated
    cases translated
  show (if _ then _ else _, replica) = _
  rw [if_pos persisted, translated]
  show (PageFeed.start _ request.window replica >>= _, replica) = _
  rw [started]
  rfl

theorem run_memberships_of_start {feed : PageFeed Membership}
    (started : PageFeed.start edgeSource none replica = .ok feed) :
    memberships.run replica = (.ok (.paged (.ofFeed feed)), replica) := by
  show (PageFeed.start _ none replica >>= _, replica) = _
  rw [started]
  rfl

/-- A cursor over the rows of a search gives them as they are cut by the
window. -/
theorem Reached.yields_search (reached : replica.Reached)
    (readable : replica.readTables = .ok replica.tables)
    (translated :
      request.filter.storedCondition request.scope replica.converter =
        .ok condition)
    (within :
      request.StaysWithin condition replica.bufferSize
        (replica.tables.matchingAfter request.scope condition none)) :
    ∃ feed,
      (search request).run replica = (.ok (.paged (.ofFeed feed)), replica) ∧
      feed.Yields replica
        (fun row => Entity.ofRow replica.converter (replica.tables.result row))
        (Window.cut request.window
          (replica.tables.matchingAfter request.scope condition none))
        (request.window.map (·.limit)) := by
  have sound := reached.sound
  have first (asked : PageFeed.firstLength request.window replica ≠ 0) :=
    sound.page_search replica.converter (within.first (limit_ne_zero asked))
      ⟨PageFeed.skipped request.window,
        PageFeed.firstLength request.window replica⟩
  obtain ⟨feed, started, _, yields⟩ :=
    (sound.lists_matchingAfter replica.converter).exists_yields
      reached.hasRoom.buffered readable
      request.window Tables.length_matchingAfter_le first
      (fun fills beyond => sound.goesOn_search _ (within.later fills beyond) _)
  exact ⟨feed, run_search_of_start translated started, yields⟩

/-- A cursor over the edges gives them in their order. -/
theorem Reached.yields_memberships (reached : replica.Reached)
    (readable : replica.readTables = .ok replica.tables)
    (fits : Keyset.ofEdges.fits replica.bufferSize replica.tables) :
    ∃ feed, memberships.run replica = (.ok (.paged (.ofFeed feed)), replica) ∧
      feed.Yields replica
        (fun edge => Membership.ofRow (replica.tables.edgeResult edge))
        (replica.tables.edgesAfter none) none := by
  have sound := reached.sound
  have bounded : (replica.tables.edgesAfter none).length ≤
      replica.tables.entities.length + replica.tables.edges.length :=
    (replica.tables.length_edgesAfter_le none).trans (Nat.le_add_left _ _)
  obtain ⟨feed, started, _, yields⟩ :=
    sound.lists_edgesAfter.exists_yields reached.hasRoom.buffered readable
      none bounded
      (fun _ => sound.page_edges fits) fun _ _ => sound.goesOn_edges fits
  exact ⟨feed, run_memberships_of_start started, yields⟩

/-- As long as the store of a replica does not change, the pages of a cursor do
not show in what it gives, however long they are. A search gives the rows that
its condition selects, each once, in the order of their keys and cut by its
window, unless a page of it is beyond a limit of the store. The edges are given
each once, in their order and with both ends as they are spelled where they are
stored. -/
theorem paging_is_invisible (reached : replica.Reached)
    (readable : replica.readTables = .ok tables)
    (buffered : replica.bufferSize ≤ Channel.capacityBound) :
    (∀ (request : SearchRequest) (condition : Condition),
      request.filter.storedCondition request.scope replica.converter =
        .ok condition →
        ∃ rows,
          (Keyset.ofSearch replica.converter request.scope condition).Lists
            tables rows ∧
          (request.StaysWithin condition replica.bufferSize rows →
            ∃ feed,
              (search request).run replica =
                (.ok (.paged (.ofFeed feed)), replica) ∧
              feed.Yields replica
                (fun row => Entity.ofRow replica.converter (tables.result row))
                (Window.cut request.window rows)
                  (request.window.map (·.limit)) ∧
              (replica.converter = .standard → ∃ entities,
                (EntryCursor.paged (.ofFeed feed)).drain replica =
                  .ok entities ∧
                  List.Forall₂ EntityRow.Shows (Window.cut request.window rows)
                    entities))) ∧
      ∃ edges feed members, Keyset.ofEdges.Lists tables edges ∧
        memberships.run replica = (.ok (.paged (.ofFeed feed)), replica) ∧
        feed.Yields replica
          (fun edge => Membership.ofRow (tables.edgeResult edge)) edges none ∧
        (EntryCursor.paged (.ofFeed feed)).drain replica = .ok members ∧
          List.Forall₂ tables.Spells edges members := by
  obtain rfl := tables_of_readTables readable
  have sound := reached.sound
  constructor
  · intro request condition translated
    have lists :
        (Keyset.ofSearch replica.converter request.scope condition).Lists
          replica.tables
          (replica.tables.matchingAfter request.scope condition none) :=
      sound.lists_matchingAfter replica.converter
    refine ⟨_, lists, ?_⟩
    intro within
    obtain ⟨feed, searched, yields⟩ :=
      reached.yields_search readable translated within
    refine ⟨feed, searched, yields, ?_⟩
    intro standard
    rw [yields.drain, standard]
    apply Answer.exists_mapM
    intro row member
    have found := (lists.mem_iff row).mp (Window.mem_of_mem_cut member)
    exact sound.exists_entity
      (List.mem_of_mem_filter (List.mem_of_mem_filter found))
  · have lists := sound.lists_edgesAfter
    have fits : Keyset.ofEdges.fits replica.bufferSize replica.tables :=
      Or.inl (buffered.trans (by decide))
    obtain ⟨feed, ran, yields⟩ := reached.yields_memberships readable fits
    obtain ⟨members, read, spelled⟩ := Answer.exists_mapM fun edge member =>
      sound.exists_membership ((lists.mem_iff edge).mp member)
    exact ⟨_, feed, members, lists, ran, yields,
      yields.drain.trans read, spelled⟩

/-- A roster of two users, both in a group. -/
def pairRoster : Roster :=
  RosterEdit.applyAll {}
    (Roster.sample ++
      [.putUser ⟨"Zoe", some "Zoe", none, none, none, true, []⟩,
        .addEdge ⟨"Staff", .user, "Zoe"⟩])

/-- A replica of them that reads one row at once. -/
def oneByOne : Replica :=
  let copied :=
    (SyncCall.run ⟨narrow, pairRoster⟩ (.upsertUser "ZOE")).2.replica
  (SyncCall.run ⟨copied, pairRoster⟩
    (.upsertMembership ⟨"STAFF", .user, "zoe"⟩)).2.replica

theorem reached_oneByOne : oneByOne.Reached :=
  (reached_narrow.call pairRoster _).call pairRoster _

theorem converter_oneByOne : oneByOne.converter = .standard :=
  (converter_of_steps
    (SyncCall.steps_run ⟨_, pairRoster⟩ (.upsertMembership _))).trans
    (converter_of_steps
      (SyncCall.steps_run ⟨narrow, pairRoster⟩ (.upsertUser "ZOE")))

theorem readTables_oneByOne : oneByOne.readTables = .ok oneByOne.tables := by
  decide +kernel

def pairRows : List EntityRow :=
  [.ofUser "ada" ⟨"Ada", some "Ada Lovelace", none, none, none, true, []⟩,
    .ofUser "zoe" ⟨"Zoe", some "Zoe", none, none, none, true, []⟩]

def pairEdges : List EdgeRow :=
  [.ofKeys "staff" .user "ada", .ofKeys "staff" .user "zoe"]

theorem paging_is_invisible_oneByOne :
    ∃ feed members,
      (search ⟨.user, .present "id", some ⟨1, 18446744073709551615⟩⟩).run
        oneByOne =
          (.ok (.paged (.ofFeed feed)), oneByOne) ∧
        (EntryCursor.paged (.ofFeed feed)).drain oneByOne =
            .ok [.user ⟨"Zoe", some "Zoe", none, none, none, true, ["Staff"]⟩] ∧
          memberships.run oneByOne =
            (.ok (.paged (.ofFeed members)), oneByOne) ∧
            (EntryCursor.paged (.ofFeed members)).drain oneByOne =
              .ok [⟨"Staff", .user, "Ada"⟩, ⟨"Staff", .user, "Zoe"⟩] := by
  obtain ⟨searches, edges, members, _, listed, ran, given, _⟩ :=
    paging_is_invisible reached_oneByOne readTables_oneByOne (by decide +kernel)
  obtain ⟨rows, lists, pages⟩ :=
    searches ⟨.user, .present "id", some ⟨1, 18446744073709551615⟩⟩
      (.present .id) rfl
  have fits : (Condition.present .id).Fits .user :=
    Condition.fits_of_room (by decide) (by decide) (by decide) (by decide) .user
  obtain ⟨feed, searched, found, _⟩ := pages (fits.staysWithin _ _)
  have rowsKnown : rows = pairRows := by
    have matching :
        oneByOne.tables.matching .user (.present .id) = pairRows := by
      decide +kernel
    have increasing :
        (pairRows.map EntityRow.key).Pairwise SqlValue.Before := by
      decide +kernel
    apply (Keyset.isOrdered_ofSearch _ _ _).eq_of_increasing lists.increasing
      increasing
    · intro row
      rw [lists.mem_iff, ← matching]
      rfl
  have edgesKnown : edges = pairEdges := by
    have stored : oneByOne.tables.edges = pairEdges := by decide +kernel
    have increasing : (pairEdges.map id).Pairwise EdgeRow.Before := by
      decide +kernel
    apply Keyset.isOrdered_ofEdges.eq_of_increasing listed.increasing increasing
    · intro edge
      rw [listed.mem_iff, ← stored]
      rfl
  refine ⟨feed, members, searched, ?_, ran, ?_⟩
  · rw [found.drain, rowsKnown]
    decide +kernel
  · rw [given.drain, edgesKnown]
    decide +kernel

/-- If the rows that a window allows do not come on the first page, and the
statements of later pages are refused, a search fails that longer pages would
have answered. -/
theorem later_page_is_refused {error : DirectoryError}
    (reached : replica.Reached) (readable : replica.readTables = .ok tables)
    (standard : replica.converter = .standard)
    (translated :
      request.filter.storedCondition request.scope replica.converter =
        .ok condition)
    (first :
      ∀ window,
        SearchPage.IsWithinLimits ⟨request.scope, condition, none, window⟩)
    (later :
      ∀ key window,
        SearchPage.prepare ⟨request.scope, condition, some key, window⟩ =
          .error error)
    (fills :
      replica.bufferSize ≤
        (Window.cut request.window
          (tables.matchingAfter request.scope condition none)).length)
    (beyond : ∀ part ∈ request.window, replica.bufferSize < part.limit) :
    ∃ feed,
      (search request).run replica = (.ok (.paged (.ofFeed feed)), replica) ∧
      (EntryCursor.paged (.ofFeed feed)).drain replica = .error error := by
  obtain rfl := tables_of_readTables readable
  have sound := reached.sound
  let rows := replica.tables.matchingAfter request.scope condition none
  let source := searchSource replica.converter request.scope condition
  have stored : ∀ row ∈ rows, row ∈ replica.tables.entities := by
    intro row member
    have found :=
      ((sound.lists_matchingAfter replica.converter).mem_iff row).mp member
    exact List.mem_of_mem_filter (List.mem_of_mem_filter found)
  have decodes : ∀ result ∈ rows.map replica.tables.result,
      ∃ entity, source.decode result = .ok entity := by
    intro result member
    obtain ⟨row, found, rfl⟩ := List.mem_map.mp member
    obtain ⟨entity, read, _⟩ := sound.exists_entity (stored row found)
    refine ⟨entity, ?_⟩
    show Entity.ofRow replica.converter _ = _
    rw [standard, read]
  have refused : ∀ result ∈ rows.map replica.tables.result, ∀ length,
      source.page (some result) ⟨0, length⟩ replica.tables = .error error := by
    intro result member length
    obtain ⟨row, found, rfl⟩ := List.mem_map.mp member
    obtain ⟨id, _, key⟩ := (sound.isRecord row (stored row found)).exists_id
    show SearchPage.rows ⟨request.scope, condition,
        (replica.tables.result row).text? "id_key", ⟨0, length⟩⟩
        replica.tables =
      _
    rw [Tables.text?_id_key_result key]
    exact SearchPage.rows_of_prepare (later _ _) _
  have page := sound.page_search replica.converter first
    ⟨PageFeed.skipped request.window,
      PageFeed.firstLength request.window replica⟩
  rw [← Window.cut_map] at page
  rw [← List.length_map replica.tables.result, ← Window.cut_map] at fills
  obtain ⟨feed, started, fails⟩ :=
    PageFeed.drain_start_of_refused reached.hasRoom.buffered readable fills
    beyond page decodes refused
  exact ⟨feed, run_search_of_start translated started, fails⟩

/-- A filter whose condition leaves room for the statement of a first page, but
of no other. -/
def deepFilter : Filter :=
  .and (List.replicate 997 (.present "displayName"))

def deepCondition : Condition :=
  .and (List.replicate 997 (.present .displayName))

theorem conditions_replicate {scope : EntityKind} {converter : Converter}
    {filter : Filter}
    (translated : filter.condition scope converter = .ok condition)
    (count : Nat) :
    Filter.conditions scope converter (List.replicate count filter) =
      .ok (List.replicate count condition) := by
  induction count with
  | zero => rfl
  | succ count inductionHypothesis =>
      rw [List.replicate_succ, List.replicate_succ, Filter.conditions,
        translated, inductionHypothesis]
      rfl

theorem deepFilter_translated :
    deepFilter.storedCondition .user .standard = .ok deepCondition := by
  have part : (Filter.present "displayName").condition .user .standard =
      .ok (.present .displayName) := rfl
  have persisted : EntityKind.user.isPersisted = true := rfl
  rw [Filter.storedCondition, if_pos persisted, deepFilter, Filter.condition,
    conditions_replicate part]
  rfl

/-- Read one by one, the two users come to an error. -/
theorem paging_shows_oneByOne :
    oneByOne.Reached ∧ oneByOne.readTables = .ok oneByOne.tables ∧
      deepFilter.storedCondition .user oneByOne.converter = .ok deepCondition ∧
        oneByOne.tables.matching .user deepCondition = pairRows ∧
          ∃ feed, (search ⟨.user, deepFilter, none⟩).run oneByOne =
              (.ok (.paged (.ofFeed feed)), oneByOne) ∧
            (EntryCursor.paged (.ofFeed feed)).drain oneByOne =
                .error Statement.heightError := by
  have height : deepCondition.height = 999 := by decide +kernel
  have innerHeight : deepCondition.innerHeight = 0 := by decide +kernel
  have values : deepCondition.values = [] := by decide +kernel
  have edges : deepCondition.edgesCount = 0 := by decide +kernel
  have patterns : deepCondition.HasShortPatterns := by decide +kernel
  have matching : oneByOne.tables.matching .user deepCondition = pairRows := by
    decide +kernel
  have translated :
      deepFilter.storedCondition .user oneByOne.converter =
          .ok deepCondition := by
    rw [converter_oneByOne, deepFilter_translated]
  refine ⟨reached_oneByOne, readTables_oneByOne, translated, matching, ?_⟩
  have first (window : Window) :
      SearchPage.IsWithinLimits ⟨.user, deepCondition, none, window⟩ := by
    refine ⟨⟨?_, ?_, ?_⟩, patterns⟩
    · rw [SearchPage.height, SearchPage.outerHeight, height, innerHeight]
      show max 3 999 + 1 + 0 ≤ 1000
      decide
    · rw [SearchPage.valueCount, values]
      show 1 + 0 + 2 ≤ 32766
      decide
    · rw [SearchPage.edgesCount, edges]
      decide
  have later (key : String) (window : Window) :
      SearchPage.prepare ⟨.user, deepCondition, some key, window⟩ =
        .error Statement.heightError := by
    apply SearchPage.prepare_of_tooHigh
    · rw [SearchPage.height, SearchPage.outerHeight, height, innerHeight]
      show 1000 < max 3 999 + 1 + 1 + 0
      decide
    · rw [SearchPage.valueCount, values]
      show 1 + 0 + 1 + 2 ≤ 32766
      decide
    · rw [SearchPage.edgesCount, edges]
      decide
  have fills : oneByOne.bufferSize ≤
      (oneByOne.tables.matchingAfter .user deepCondition none).length := by
    rw [Tables.matchingAfter, List.length_mergeSort]
    decide +kernel
  exact @later_page_is_refused oneByOne oneByOne.tables
    ⟨.user, deepFilter, none⟩ deepCondition _
    reached_oneByOne readTables_oneByOne converter_oneByOne translated first
      later fills (by simp)

end Replica

end CachedDirectory
