import CachedDirectory.Proofs.Rebuilding
import CachedDirectory.Proofs.StoredLookups

/-!
# Ids at the ends of edges

The ids of the groups that an entity is in, and those of the members of a group,
go through one cell in which they are joined. What a lookup gives are the parts
of these ids between separators, in the order of their folded forms. So the
lists are exact for ids without a separator in them; an id with one is accepted
by the store but falls apart when it is read.
-/

namespace CachedDirectory

open Text

namespace Text

variable {mark : Char} {text part : List Char}

theorem splitAtMarks_eq_splitOn (mark : Char) (text : List Char) :
    splitAtMarks mark text = text.splitOn mark := by
  induction text with
  | nil => rfl
  | cons c rest inductionHypothesis =>
      rw [splitAtMarks, inductionHypothesis, List.splitOn_cons_eq_if_modifyHead]
      by_cases same : c = mark
      · simp [same]
      · rw [if_neg same, if_neg (by simpa using same)]
        cases parts : rest.splitOn mark with
        | nil => exact absurd parts (List.splitOn_ne_nil mark rest)
        | cons first others => rfl

/-- Texts with marks between them are split into the parts of each. -/
theorem splitOn_intercalate_flatMap {texts : List (List Char)}
    (nonempty : texts ≠ []) :
    (List.intercalate [mark] texts).splitOn mark =
        texts.flatMap (List.splitOn mark) := by
  induction texts with
  | nil => exact absurd rfl nonempty
  | cons first rest inductionHypothesis =>
      cases rest with
      | nil => simp [List.intercalate]
      | cons second others =>
          have joined := inductionHypothesis (List.cons_ne_nil second others)
          rw [List.intercalate_cons_cons, List.append_assoc,
            List.singleton_append, List.splitOn_append_cons_self, joined]
          exact List.flatMap_cons.symm

theorem not_mem_of_mem_splitOn (listed : part ∈ text.splitOn mark) :
    mark ∉ part := by
  induction text generalizing part with
  | nil => simp_all
  | cons c rest inductionHypothesis =>
      rw [List.splitOn_cons_eq_if_modifyHead] at listed
      by_cases same : c = mark
      · rw [if_pos (by simpa using same)] at listed
        rcases List.mem_cons.mp listed with rfl | later
        · exact List.not_mem_nil
        · exact inductionHypothesis later
      · rw [if_neg (by simpa using same)] at listed
        cases parts : rest.splitOn mark with
        | nil => exact absurd parts (List.splitOn_ne_nil mark rest)
        | cons first others =>
            rw [parts] at listed inductionHypothesis
            rcases List.mem_cons.mp listed with rfl | later
            · have apart := inductionHypothesis List.mem_cons_self
              simp [apart, Ne.symm same]
            · exact inductionHypothesis (List.mem_cons_of_mem first later)

end Text

namespace Converter

/-- The parts of an id between separators, without empty ones. -/
def pieces (id : String) : List String :=
  ((splitAtMarks valueSeparator id.toList).filter fun part => !part.isEmpty).map
    String.ofList

theorem pieces_of_unseparated {id : String} (named : isBlank id = false)
    (unseparated : valueSeparator ∉ id.toList) : pieces id = [id] := by
  have filled : id.toList ≠ [] := by
    intro empty
    rw [isBlank, empty] at named
    cases named
  rw [pieces, splitAtMarks_eq_splitOn, List.splitOn_eq_singleton unseparated]
  simp [filled]

theorem unseparated_of_mem_pieces {id part : String}
    (listed : part ∈ pieces id) :
    valueSeparator ∉ part.toList := by
  obtain ⟨characters, kept, rfl⟩ := List.mem_map.mp listed
  rw [splitAtMarks_eq_splitOn] at kept
  rw [String.toList_ofList]
  exact not_mem_of_mem_splitOn (List.mem_of_mem_filter kept)

/-- What is read of joined ids are their pieces. -/
theorem splitCell_intercalate {ids : List String} (nonempty : ids ≠ []) :
    splitCell (String.ofList
      (List.intercalate [valueSeparator] (ids.map String.toList))) =
      inOrder fold (ids.flatMap pieces) := by
  have texts : ids.map String.toList ≠ [] := by simpa using nonempty
  rw [splitCell, String.toList_ofList, splitAtMarks_eq_splitOn,
    splitOn_intercalate_flatMap texts, List.flatMap_map, List.filter_flatMap,
    List.map_flatMap]
  congr 2
  funext id
  rw [pieces, splitAtMarks_eq_splitOn]

end Converter

theorem joinedIds_texts (ids : List String) :
    joinedIds (ids.map .text) =
        inOrder fold (ids.flatMap Converter.pieces) := by
  by_cases none : ids = []
  · simp [none, joinedIds, joinValues, inOrder]
  · rw [joinedIds, joinValues_texts none]
    exact Converter.splitCell_intercalate none

/-- The ids of the groups that an entity lists. -/
def Entity.memberOf : Entity → List String
  | .group record => record.memberOf
  | .user record => record.memberOf
  | .domain _ | .container _ => []

/-- The ids of the members that an entity lists. -/
def Entity.members : Entity → List String
  | .group record => record.members
  | .user _ | .domain _ | .container _ => []

namespace Tables

variable {tables : Tables} {row : EntityRow}

/-- The stored groups that have an edge to an entity. -/
def groupsOf (tables : Tables) (row : EntityRow) : List EntityRow :=
  tables.entities.filter fun group =>
    group.kind == .text EntityKind.group.name &&
      tables.edges.contains ⟨group.key, row.kind, row.key⟩

/-- The stored entities that the edges of a group point to. -/
def membersOf (tables : Tables) (row : EntityRow) : List EntityRow :=
  tables.entities.filter fun member =>
    tables.edges.contains ⟨row.key, member.kind, member.key⟩

/-- The ids of rows in their own spelling. -/
def displayIds (rows : List EntityRow) : List String :=
  rows.filterMap fun row => row.id.text?

theorem Sound.nodup_entities (sound : tables.Sound) : tables.entities.Nodup :=
  sound.nodup_places.of_map _

/-- The rows at the ends of edges, collected edge by edge, are those whose edges
are there: an edge has one end, and every end belongs to one edge. -/
theorem perm_ends {entities : List EntityRow} {edges : List EdgeRow}
    (distinctEntities : entities.Nodup) (distinctEdges : edges.Nodup)
    (keep : EdgeRow → Bool) (rowsAt : EdgeRow → List EntityRow)
    (admits : EntityRow → Bool) (edgeOf : EntityRow → EdgeRow)
    (part : ∀ edge, (rowsAt edge).Sublist entities)
    (mem_rowsAt :
      ∀ edge ∈ edges,
        keep edge = true → ∀ row,
          row ∈ rowsAt edge ↔
            row ∈ entities ∧ admits row = true ∧ edgeOf row = edge)
    (kept : ∀ row, keep (edgeOf row) = true) :
    ((edges.filter keep).flatMap rowsAt).Perm
      (entities.filter fun row =>
          admits row && edges.contains (edgeOf row)) := by
  have distinct : ((edges.filter keep).flatMap rowsAt).Nodup := by
    refine List.nodup_flatMap.mpr
      ⟨fun edge _ => distinctEntities.sublist (part edge), ?_⟩
    apply List.Pairwise.imp_of_mem _ (distinctEdges.filter keep)
    intro edge other edgeMember otherMember different row atEdge atOther
    obtain ⟨edgeThere, edgeKept⟩ := List.mem_filter.mp edgeMember
    obtain ⟨otherThere, otherKept⟩ := List.mem_filter.mp otherMember
    have same := ((mem_rowsAt edge edgeThere edgeKept row).mp atEdge).2.2
    have otherSame :=
      ((mem_rowsAt other otherThere otherKept row).mp atOther).2.2
    exact different (same.symm.trans otherSame)
  apply (List.perm_ext_iff_of_nodup distinct (distinctEntities.filter _)).mpr
  intro row
  rw [List.mem_flatMap, List.mem_filter, Bool.and_eq_true,
    List.contains_iff_mem]
  constructor
  · rintro ⟨edge, member, listed⟩
    obtain ⟨there, edgeKept⟩ := List.mem_filter.mp member
    obtain ⟨stored, admitted, rfl⟩ :=
      (mem_rowsAt edge there edgeKept row).mp listed
    exact ⟨stored, admitted, there⟩
  · rintro ⟨stored, admitted, there⟩
    refine ⟨_, List.mem_filter.mpr ⟨there, kept row⟩, ?_⟩
    exact (mem_rowsAt _ there (kept row) row).mpr ⟨stored, admitted, rfl⟩

/-- The joined ids of groups are those of the groups that have an edge to the
entity. -/
theorem Sound.perm_groupIds (sound : tables.Sound) {kind key : String}
    (kindCell : row.kind = .text kind) (keyCell : row.key = .text key) :
    (tables.groupIds row).Perm ((tables.groupsOf row).map (·.id)) := by
  have rows : (tables.groupIds row) =
      ((tables.edges.filter fun edge => (row.isMemberOn edge).isYes).flatMap
        fun edge =>
        tables.groupRows edge.groupKey).map (·.id) := by
    rw [groupIds, List.map_flatMap]
  rw [rows]
  apply List.Perm.map
  apply perm_ends sound.nodup_entities sound.nodup_edges _ _
    (fun group => group.kind == .text EntityKind.group.name)
    (fun group => ⟨group.key, row.kind, row.key⟩)
  · exact fun edge => List.filter_sublist
  · intro edge member points group
    obtain ⟨groupKey, memberKind, memberKey, rfl⟩ :=
      sound.exists_edge_texts member
    have ends : memberKind = kind ∧ memberKey = key := by
      simpa [EntityRow.isMemberOn, kindCell, keyCell] using points
    rw [groupRows, mem_entityRows_iff, kindCell, keyCell, ends.1, ends.2]
    simp [EntityRow.place]
  · intro group
    simp [EntityRow.isMemberOn, kindCell, keyCell]

/-- The joined ids of members are those of the entities that the edges of the
group point to. -/
theorem Sound.perm_memberIds (sound : tables.Sound) {key : String}
    (kindCell : row.kind = .text EntityKind.group.name)
    (keyCell : row.key = .text key) :
    (tables.memberIds row).Perm ((tables.membersOf row).map (·.id)) := by
  have rows : (tables.memberIds row).Perm
      (((tables.edges.filter fun edge =>
        (row.isGroup.and (row.isGroupOn edge)).isYes).flatMap
        fun edge => tables.entityRows edge.memberKind edge.memberKey).map
            (·.id)) := by
    rw [memberIds, List.map_flatMap]
    exact (List.mergeSort_perm _ _).flatMap_right _
  refine rows.trans (List.Perm.map _ ?_)
  have ends := perm_ends sound.nodup_entities sound.nodup_edges
    (fun edge => (row.isGroup.and (row.isGroupOn edge)).isYes)
    (fun edge => tables.entityRows edge.memberKind edge.memberKey)
      (fun _ => true)
    (fun member => ⟨row.key, member.kind, member.key⟩)
      (fun edge => List.filter_sublist) ?_ ?_
  · simpa [membersOf] using ends
  · intro edge member points other
    obtain ⟨groupKey, memberKind, memberKey, rfl⟩ :=
      sound.exists_edge_texts member
    have same : groupKey = key := by
      simpa [EntityRow.isGroup, EntityRow.isGroupOn, kindCell, keyCell]
        using points
    rw [mem_entityRows_iff, keyCell, same]
    simp [EntityRow.place]
  · intro member
    simp [EntityRow.isGroup, EntityRow.isGroupOn, kindCell, keyCell]

end Tables

/-- How the ids of linked entities are read: their pieces in order, so exactly
these ids if and only if none of them has a separator in it. -/
structure ReadsBack (read ids : List String) : Prop where
  sorted : read.Pairwise fun left right => fold left ≤ fold right
  pieces : read.Perm (ids.flatMap Converter.pieces)
  perm_iff : read.Perm ids ↔ ∀ id ∈ ids, valueSeparator ∉ id.toList

theorem EntityRow.IsRecord.exists_named {row : EntityRow}
    (record : row.IsRecord) :
    ∃ id, row.id = .text id ∧ isBlank id = false := by
  cases record with
  | group group _ named => exact ⟨group.id, rfl, named⟩
  | user user _ named => exact ⟨user.id, rfl, named⟩

theorem readsBack_inOrder {listed ids : List String} (perm : listed.Perm ids)
    (named : ∀ id ∈ ids, isBlank id = false) :
    ReadsBack (inOrder fold (listed.flatMap Converter.pieces)) ids := by
  have pieces : (inOrder fold (listed.flatMap Converter.pieces)).Perm
      (ids.flatMap Converter.pieces) :=
    (perm_inOrder _ _).trans (perm.flatMap_right Converter.pieces)
  refine ⟨pairwise_inOrder _ _, pieces, ?_⟩
  constructor
  · intro same id member
    have there := pieces.mem_iff.mp (same.mem_iff.mpr member)
    obtain ⟨whole, _, piece⟩ := List.mem_flatMap.mp there
    exact Converter.unseparated_of_mem_pieces piece
  · intro unseparated
    have whole : ids.flatMap Converter.pieces = ids.flatMap fun id => [id] := by
      apply List.flatMap_congr
      intro id member
      exact Converter.pieces_of_unseparated (named id member)
        (unseparated id member)
    rw [whole, List.flatMap_singleton'] at pieces
    exact pieces

theorem readsBack_joinedIds {values : List SqlValue} {rows : List EntityRow}
    (perm : values.Perm (rows.map (·.id)))
    (records : ∀ row ∈ rows, row.IsRecord) :
    ReadsBack (joinedIds values) (Tables.displayIds rows) := by
  have texts : values = (values.filterMap SqlValue.text?).map .text := by
    rw [List.map_filterMap]
    nth_rewrite 1 [← List.filterMap_some (l := values)]
    apply List.filterMap_congr
    intro value member
    obtain ⟨row, listed, rfl⟩ := List.mem_map.mp (perm.mem_iff.mp member)
    obtain ⟨name, cell, _⟩ := (records row listed).exists_named
    simp [cell]
  have listed :
      (values.filterMap SqlValue.text?).Perm (Tables.displayIds rows) := by
    have ids := perm.filterMap SqlValue.text?
    rw [List.filterMap_map] at ids
    exact ids
  rw [texts, joinedIds_texts]
  apply readsBack_inOrder listed
  intro id member
  obtain ⟨row, member, shown⟩ := List.mem_filterMap.mp member
  obtain ⟨name, cell, named⟩ := (records row member).exists_named
  rw [cell] at shown
  cases shown
  exact named

namespace Tables

variable {tables : Tables} {row : EntityRow}

theorem Sound.readsBack_memberOf (sound : tables.Sound) {kind key : String}
    (kindCell : row.kind = .text kind) (keyCell : row.key = .text key) :
    ReadsBack (joinedIds (tables.groupIds row))
        (displayIds (tables.groupsOf row)) := by
  apply readsBack_joinedIds (sound.perm_groupIds kindCell keyCell)
  exact fun group listed => sound.isRecord group (List.mem_of_mem_filter listed)

theorem Sound.readsBack_members (sound : tables.Sound) {key : String}
    (kindCell : row.kind = .text EntityKind.group.name)
    (keyCell : row.key = .text key) :
    ReadsBack (joinedIds (tables.memberIds row))
        (displayIds (tables.membersOf row)) := by
  apply readsBack_joinedIds (sound.perm_memberIds kindCell keyCell)
  exact fun member listed =>
    sound.isRecord member (List.mem_of_mem_filter listed)

end Tables

namespace Replica

variable {replica : Replica} {tables : Tables} {row : EntityRow}

/-- What a lookup gives for an entity lists the pieces of the ids of the groups
that have an edge to it, and for a group those of the entities that its edges
point to, in order. The lists are exactly these ids if and only if none of them
has a separator in it. -/
theorem lookup_reads_links (reached : replica.Reached)
    (standard : replica.converter = .standard)
    (readable : replica.readTables = .ok tables)
    (stored : row ∈ tables.entities) {kind : EntityKind} {id : String}
    (placed : row.place = placeOf kind id) :
    ∃ entity, ((lookup kind id).run replica).1 = .ok entity ∧
      ReadsBack entity.memberOf (Tables.displayIds (tables.groupsOf row)) ∧
        (kind = .group →
            ReadsBack entity.members
                (Tables.displayIds (tables.membersOf row))) := by
  obtain rfl := tables_of_readTables readable
  have sound := reached.sound
  cases sound.isRecord row stored with
  | group group version named =>
      obtain ⟨rfl, same⟩ := Roster.placeOf_eq_iff.mp
        (show placeOf .group group.id = placeOf kind id from placed)
      rw [run_lookup readable rfl, standard]
      refine ⟨_, sound.storedEntity_group stored same.symm, ?_, ?_⟩
      · exact sound.readsBack_memberOf rfl rfl
      · exact fun _ => sound.readsBack_members rfl rfl
  | user user version named =>
      obtain ⟨rfl, same⟩ := Roster.placeOf_eq_iff.mp
        (show placeOf .user user.id = placeOf kind id from placed)
      rw [run_lookup readable rfl, standard]
      refine ⟨_, sound.storedEntity_user stored same.symm, ?_, ?_⟩
      · exact sound.readsBack_memberOf rfl rfl
      · exact fun other => absurd other (by decide)

theorem converter_resync {α : Type} [Authority α] (session : Session α)
    (pageSize : Nat) :
    (session.resync pageSize).2.replica.converter = session.replica.converter :=
  converter_of_steps (Resync.steps_run _ _ session)

/-- The user of the sample lists the one group that it is in. -/
theorem lookup_reads_links_filled :
    ∃ entity, ((lookup .user "ADA").run filled).1 = .ok entity ∧
      entity.memberOf.Perm ["Staff"] := by
  let row : EntityRow :=
    .ofUser "ada" ⟨"Ada", some "Ada Lovelace", none, none, none, true, []⟩
  have readable : filled.readTables = .ok filled.tables := by decide +kernel
  have stored : row ∈ filled.tables.entities := by decide +kernel
  have placed : row.place = placeOf .user "ADA" := by decide +kernel
  have linked : Tables.displayIds (filled.tables.groupsOf row) = ["Staff"] := by
    decide +kernel
  obtain ⟨entity, found, reads, _⟩ :=
    lookup_reads_links reached_filled (converter_resync _ _) readable
      stored placed
  rw [linked] at reads
  exact ⟨entity, found, reads.perm_iff.mpr (by decide)⟩

/-- A replica of a user in a group whose id has a separator in it. -/
def separated : Replica :=
  (Session.resync ⟨unfilled, RosterEdit.applyAll {}
    [.putGroup ⟨"a\x1fb", none, [], []⟩,
      .putUser ⟨"u", none, none, none, none, true, []⟩,
      .addEdge ⟨"a\x1fb", .user, "u"⟩]⟩ 1).2.replica

/-- That id is read as two. -/
theorem lookup_splits_linked_id :
    separated.Reached ∧ separated.converter = .standard ∧
      separated.readTables = .ok separated.tables ∧
        ∃ row ∈ separated.tables.entities, row.place = placeOf .user "u" ∧
          Tables.displayIds (separated.tables.groupsOf row) = ["a\x1fb"] ∧
            ((lookup .user "u").run separated).1 =
                .ok (.user ⟨"u", none, none, none, none, true, ["a", "b"]⟩) ∧
              ¬["a", "b"].Perm ["a\x1fb"] := by
  let user : User := ⟨"u", none, none, none, none, true, []⟩
  have reached : separated.Reached := reached_unfilled.resync _ 1
  have standard : separated.converter = .standard := converter_resync _ _
  have readable : separated.readTables = .ok separated.tables := by
    decide +kernel
  have stored : .ofUser (fold user.id) user ∈ separated.tables.entities := by
    decide +kernel
  have joined : separated.tables.groupIds (.ofUser (fold user.id) user) =
      ["a\x1fb"].map .text := by decide +kernel
  have pieces : ["a\x1fb"].flatMap Converter.pieces = ["a", "b"] := by
    decide +kernel
  have sorted :
      ["a", "b"].Pairwise fun left right => fold left ≤ fold right := by
    decide +kernel
  refine ⟨reached, standard, readable, _, stored, rfl, by decide +kernel,
    ?_, by decide⟩
  rw [run_lookup readable rfl, standard]
  have found := reached.sound.storedEntity_user stored rfl
  rw [joined, joinedIds_texts, pieces, inOrder_of_pairwise sorted] at found
  exact found

end Replica

end CachedDirectory
