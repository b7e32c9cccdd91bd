import CachedDirectory.Proofs.StoredRecords
import CachedDirectory.Replica.Sync

/-!
# Changes of a sound store

What each change of the tables does to the rows, the places and the edges, and
that a sound store stays sound. Rows are removed together with the edges at
them, and an edge is written only between places that are taken.
-/

namespace CachedDirectory

open Text

namespace Tables

variable {tables : Tables}

/-! ## Writing entities -/

@[simp]
theorem edges_upsertEntity (tables : Tables) (row : EntityRow) :
    (tables.upsertEntity row).edges = tables.edges := by
  unfold upsertEntity
  split <;> rfl

theorem any_samePlace_iff {row : EntityRow} :
    (tables.entities.any fun other => other.samePlace row) = true ↔
        row.place ∈ tables.places := by
  simp only [List.any_eq_true, EntityRow.samePlace_iff, places, List.mem_map]

theorem entities_upsertEntity_of_not_mem {row : EntityRow}
    (fresh : row.place ∉ tables.places) :
    (tables.upsertEntity row).entities =
        tables.entities ++ [{ row with version := 1 }] := by
  unfold upsertEntity
  rw [if_neg (mt any_samePlace_iff.mp fresh)]

theorem places_upsertEntity (row : EntityRow) :
    (tables.upsertEntity row).places =
      if row.place ∈
          tables.places then tables.places else
              tables.places ++ [row.place] := by
  by_cases taken : row.place ∈ tables.places
  · rw [if_pos taken]
    unfold upsertEntity
    rw [if_pos (any_samePlace_iff.mpr taken)]
    simp only [places, List.map_map]
    apply List.map_congr_left
    intro other _
    by_cases same : other.samePlace row = true
    · simp [same, EntityRow.samePlace_iff.mp same]
    · simp [same]
  · rw [if_neg taken]
    simp [places, entities_upsertEntity_of_not_mem taken]

theorem mem_places_upsertEntity {row : EntityRow}
    {place : SqlValue × SqlValue} :
    place ∈ (tables.upsertEntity row).places ↔
        place ∈ tables.places ∨ place = row.place := by
  rw [places_upsertEntity]
  split
  · exact ⟨Or.inl, fun taken => taken.elim id fun same => same ▸ ‹_›⟩
  · simp

theorem nodup_places_upsertEntity (distinct : tables.places.Nodup)
    (row : EntityRow) :
    (tables.upsertEntity row).places.Nodup := by
  rw [places_upsertEntity]
  split
  · exact distinct
  · rw [← List.concat_eq_append]
    exact (List.nodup_concat _ _).mpr ⟨‹_›, distinct⟩

/-- A row of the table after a row was written is that row, but for its version,
or it was there before. -/
theorem mem_entities_upsertEntity {row other : EntityRow}
    (member : other ∈ (tables.upsertEntity row).entities) :
    other ∈ tables.entities ∨ ∃ version,
        other = { row with version := version } := by
  unfold upsertEntity at member
  split at member
  · obtain ⟨earlier, earlierMember, rfl⟩ := List.mem_map.mp member
    split
    · exact Or.inr ⟨_, rfl⟩
    · exact Or.inl earlierMember
  · rcases List.mem_append.mp member with earlier | fresh
    · exact Or.inl earlier
    · exact Or.inr ⟨1, List.mem_singleton.mp fresh⟩

theorem Sound.upsertEntity (sound : tables.Sound) {row : EntityRow}
    (record : row.IsRecord) :
    (tables.upsertEntity row).Sound where
  isRecord other member := by
    rcases mem_entities_upsertEntity member with earlier | ⟨version, rfl⟩
    · exact sound.isRecord other earlier
    · exact record.withVersion version
  nodup_places := nodup_places_upsertEntity sound.nodup_places row
  nodup_edges := by
    rw [edges_upsertEntity]
    exact sound.nodup_edges
  ends edge member := by
    rw [edges_upsertEntity] at member
    have ends := sound.ends edge member
    exact ⟨mem_places_upsertEntity.mpr (Or.inl ends.1),
      mem_places_upsertEntity.mpr (Or.inl ends.2)⟩

/-! ## Writing edges -/

@[simp]
theorem entities_upsertEdge (tables : Tables) (edge : EdgeRow) :
    (tables.upsertEdge edge).entities = tables.entities := by
  unfold upsertEdge
  split <;> rfl

@[simp]
theorem places_upsertEdge (tables : Tables) (edge : EdgeRow) :
    (tables.upsertEdge edge).places = tables.places := by
  simp [places]

theorem edges_upsertEdge (tables : Tables) (edge : EdgeRow) :
    (tables.upsertEdge edge).edges =
      if edge ∈ tables.edges then tables.edges else tables.edges ++ [edge] := by
  unfold Tables.upsertEdge
  by_cases member : edge ∈ tables.edges
  · rw [if_pos (List.contains_iff_mem.mpr member), if_pos member]
  · rw [if_neg (mt List.contains_iff_mem.mp member), if_neg member]

theorem mem_edges_upsertEdge {edge other : EdgeRow} :
    other ∈ (tables.upsertEdge edge).edges ↔
        other ∈ tables.edges ∨ other = edge := by
  rw [edges_upsertEdge]
  split
  · exact ⟨Or.inl, fun there => there.elim id fun same => same ▸ ‹_›⟩
  · simp

theorem Sound.upsertEdge (sound : tables.Sound) {edge : EdgeRow}
    (ends :
      edge.groupPlace ∈ tables.places ∧ edge.memberPlace ∈ tables.places) :
    (tables.upsertEdge edge).Sound where
  isRecord := by
    rw [entities_upsertEdge]
    exact sound.isRecord
  nodup_places := by
    rw [places_upsertEdge]
    exact sound.nodup_places
  nodup_edges := by
    rw [edges_upsertEdge]
    split
    · exact sound.nodup_edges
    · rw [← List.concat_eq_append]
      exact (List.nodup_concat _ _).mpr ⟨‹_›, sound.nodup_edges⟩
  ends other member := by
    rw [places_upsertEdge]
    rcases mem_edges_upsertEdge.mp member with there | rfl
    · exact sound.ends other there
    · exact ends

/-- Edges are written one after the other, so each only needs that its own ends
are there. -/
theorem Sound.foldl_upsertEdge {edges : List EdgeRow} (sound : tables.Sound)
    (ends : ∀ edge ∈ edges,
      edge.groupPlace ∈ tables.places ∧ edge.memberPlace ∈ tables.places) :
    (edges.foldl Tables.upsertEdge tables).Sound := by
  induction edges generalizing tables with
  | nil => exact sound
  | cons edge rest inductionHypothesis =>
      apply inductionHypothesis
        (sound.upsertEdge (ends edge List.mem_cons_self))
      intro other member
      rw [places_upsertEdge]
      exact ends other (List.mem_cons_of_mem edge member)

/-- A copied edge leads from the group of an edge that is there to the member
that receives it. -/
theorem Sound.copyEdges (sound : tables.Sound) {kind source target : String}
    (stored : (.text kind, .text target) ∈ tables.places) :
    (tables.copyEdges (.text kind) (.text source) (.text target)).Sound := by
  apply sound.foldl_upsertEdge
  intro copied member
  obtain ⟨edge, selected, rfl⟩ := List.mem_map.mp member
  obtain ⟨edgeMember, holds⟩ := List.mem_filter.mp selected
  have sameKind : edge.memberKind = .text kind := by
    simp only [hasMember, Truth.isYes_and, SqlValue.isYes_equals_text,
      Bool.and_eq_true, decide_eq_true_eq] at holds
    exact holds.1
  refine ⟨(sound.ends edge edgeMember).1, ?_⟩
  show (edge.memberKind, SqlValue.text target) ∈ tables.places
  rw [sameKind]
  exact stored

@[simp]
theorem entities_copyEdges (tables : Tables) (kind source target : SqlValue) :
    (tables.copyEdges kind source target).entities = tables.entities := by
  unfold copyEdges
  generalize tables.copiedEdges kind source target = edges
  induction edges generalizing tables with
  | nil => rfl
  | cons edge rest inductionHypothesis =>
      rw [List.foldl_cons, inductionHypothesis, entities_upsertEdge]

/-! ## Removing entities and edges -/

/-- Rows are removed by their places. What is left is sound if the ends of the
edges that are left are kept. -/
theorem Sound.restrict (sound : tables.Sound) {smaller : Tables}
    (keepPlace : SqlValue × SqlValue → Bool) (keepEdge : EdgeRow → Bool)
    (entities :
      smaller.entities = tables.entities.filter fun row => keepPlace row.place)
    (edges : smaller.edges = tables.edges.filter keepEdge)
    (closed :
      ∀ edge,
        keepEdge edge = true →
          keepPlace edge.groupPlace = true ∧
            keepPlace edge.memberPlace = true) :
    smaller.Sound := by
  have places : smaller.places = tables.places.filter keepPlace := by
    rw [Tables.places, entities, Tables.places, List.filter_map]
    rfl
  constructor
  · intro row member
    rw [entities] at member
    exact sound.isRecord row (List.mem_of_mem_filter member)
  · rw [places]
    exact sound.nodup_places.filter keepPlace
  · rw [edges]
    exact sound.nodup_edges.filter keepEdge
  · intro edge member
    rw [edges] at member
    obtain ⟨there, kept⟩ := List.mem_filter.mp member
    have ends := sound.ends edge there
    have keepEnds := closed edge kept
    rw [places]
    exact ⟨List.mem_filter.mpr ⟨ends.1, keepEnds.1⟩,
      List.mem_filter.mpr ⟨ends.2, keepEnds.2⟩⟩

theorem Sound.deleteEdgesWhere (sound : tables.Sound)
    (property : EdgeRow → Truth) :
    (tables.deleteEdgesWhere property).Sound :=
  sound.restrict (fun _ => true) (fun edge => !(property edge).isYes)
    (List.filter_true tables.entities).symm rfl fun _ _ => ⟨rfl, rfl⟩

theorem isYes_hasGroup (key : String) (edge : EdgeRow) :
    (hasGroup (.text key) edge).isYes =
      decide (edge.groupPlace = (.text EntityKind.group.name, .text key)) := by
  rw [Bool.eq_iff_iff]
  simp [hasGroup, EdgeRow.groupPlace]

theorem isYes_hasMember (kind key : String) (edge : EdgeRow) :
    (hasMember (.text kind) (.text key) edge).isYes =
      decide (edge.memberPlace = (.text kind, .text key)) := by
  rw [Bool.eq_iff_iff]
  simp [hasMember, EdgeRow.memberPlace]

theorem isYes_hasMemberKind (kind : String) (edge : EdgeRow) :
    (hasMemberKind (.text kind) edge).isYes =
        decide (edge.memberPlace.1 = .text kind) :=
  SqlValue.isYes_equals_text edge.memberKind kind

theorem entities_deleteEntity (tables : Tables) (kind key : String) :
    (tables.deleteEntity (.text kind) (.text key)).entities =
      tables.entities.filter fun row =>
          !decide (row.place = (.text kind, .text key)) := by
  apply List.filter_congr
  intro row _
  congr 1
  rw [Bool.eq_iff_iff]
  simp [EntityRow.place]

theorem entities_deleteKind (tables : Tables) (kind : String) :
    (tables.deleteKind (.text kind)).entities =
      tables.entities.filter fun row => !decide (row.place.1 = .text kind) := by
  apply List.filter_congr
  intro row _
  exact congrArg _ (SqlValue.isYes_equals_text row.kind kind)

theorem entities_dropGroup (tables : Tables) (key : String) :
    (tables.dropGroup (.text key)).entities =
      tables.entities.filter fun row =>
        !decide (row.place = (.text EntityKind.group.name, .text key)) :=
  entities_deleteEntity _ _ _

theorem edges_dropGroup (tables : Tables) (key : String) :
    (tables.dropGroup (.text key)).edges =
      tables.edges.filter fun edge =>
        !decide (edge.memberPlace = (.text EntityKind.group.name, .text key)) &&
          !decide (edge.groupPlace =
              (.text EntityKind.group.name, .text key)) := by
  simp only [dropGroup, deleteEntity, deleteEdgesWhere, List.filter_filter,
    isYes_hasMember, isYes_hasGroup]

theorem entities_dropUser (tables : Tables) (key : String) :
    (tables.dropUser (.text key)).entities =
      tables.entities.filter fun row =>
        !decide (row.place = (.text EntityKind.user.name, .text key)) :=
  entities_deleteEntity _ _ _

theorem edges_dropUser (tables : Tables) (key : String) :
    (tables.dropUser (.text key)).edges =
      tables.edges.filter fun edge =>
        !decide (edge.memberPlace =
            (.text EntityKind.user.name, .text key)) := by
  simp only [dropUser, deleteEntity, deleteEdgesWhere, isYes_hasMember]

theorem entities_dropGroups (tables : Tables) :
    tables.dropGroups.entities =
      tables.entities.filter fun row =>
          !decide (row.place.1 = .text EntityKind.group.name) :=
  entities_deleteKind _ _

theorem entities_dropUsers (tables : Tables) :
    tables.dropUsers.entities =
      tables.entities.filter fun row =>
          !decide (row.place.1 = .text EntityKind.user.name) :=
  entities_deleteKind _ _

theorem edges_dropUsers (tables : Tables) :
    tables.dropUsers.edges =
      tables.edges.filter fun edge =>
        !decide (edge.memberPlace.1 = .text EntityKind.user.name) := by
  simp only [dropUsers, deleteKind, deleteEdgesWhere, isYes_hasMemberKind]

theorem Sound.dropGroup (sound : tables.Sound) (key : String) :
    (tables.dropGroup (.text key)).Sound := by
  apply sound.restrict
    (fun place => !decide (place = (.text EntityKind.group.name, .text key))) _
    (entities_dropGroup tables key) (edges_dropGroup tables key)
  intro edge kept
  exact (Bool.and_eq_true_iff.mp kept).symm

/-- A user is the group of no edge. -/
theorem Sound.dropUser (sound : tables.Sound) (key : String) :
    (tables.dropUser (.text key)).Sound := by
  apply sound.restrict
    (fun place => !decide (place = (.text EntityKind.user.name, .text key))) _
    (entities_dropUser tables key) (edges_dropUser tables key)
  intro edge kept
  exact ⟨by simp [EdgeRow.groupPlace, EntityKind.name], kept⟩

theorem Sound.dropGroups (sound : tables.Sound) : tables.dropGroups.Sound := by
  apply sound.restrict
    (fun place => !decide (place.1 = .text EntityKind.group.name))
    (fun _ => false) (entities_dropGroups tables) (List.filter_false _).symm
  intro edge kept
  cases kept

theorem Sound.dropUsers (sound : tables.Sound) : tables.dropUsers.Sound := by
  apply sound.restrict
    (fun place => !decide (place.1 = .text EntityKind.user.name)) _
    (entities_dropUsers tables) (edges_dropUsers tables)
  intro edge kept
  exact ⟨by simp [EdgeRow.groupPlace, EntityKind.name], kept⟩

theorem Sound.dropEdge (sound : tables.Sound) (edge : EdgeRow) :
    (tables.dropEdge edge).Sound :=
  sound.deleteEdgesWhere _

/-! ## Marks -/

@[simp]
theorem entities_setState (tables : Tables) (state : String) :
    (tables.setState state).entities = tables.entities := by
  unfold setState putMark
  split <;> rfl

@[simp]
theorem edges_setState (tables : Tables) (state : String) :
    (tables.setState state).edges = tables.edges := by
  unfold setState putMark
  split <;> rfl

/-- A mark that was written is read as written, however often its name was
there. -/
theorem head?_markValues_putMark (tables : Tables) (name : String)
    (value : SqlValue) :
    ((tables.putMark (.text name) value).markValues (.text name)).head? =
        some value := by
  unfold putMark
  split
  · rename_i there
    have values : ∀ marks : List MarkRow,
        ((marks.map fun mark =>
            if (mark.name.equals (.text name)).isYes then
              { mark with value := value }
            else mark).filter fun mark =>
              (mark.name.equals (.text name)).isYes).map (·.value) =
          (marks.filter fun mark => (mark.name.equals (.text name)).isYes).map
              fun _ => value := by
      intro marks
      induction marks with
      | nil => rfl
      | cons mark rest inductionHypothesis =>
          cases same : (mark.name.equals (.text name)).isYes with
          | true => simp_all
          | false => simp_all
    obtain ⟨mark, member, same⟩ := List.any_eq_true.mp there
    have selected :
        mark ∈ tables.marks.filter fun mark =>
            (mark.name.equals (.text name)).isYes :=
      List.mem_filter.mpr ⟨member, same⟩
    rw [markValues, values]
    rcases filtered :
      tables.marks.filter fun mark => (mark.name.equals (.text name)).isYes with
      _ | ⟨first, rest⟩
    · rw [filtered] at selected
      cases selected
    · rw [filtered]
      rfl
  · rename_i absent
    have none :
        tables.marks.filter
            (fun mark => (mark.name.equals (.text name)).isYes) = [] :=
      List.filter_eq_nil_iff.mpr fun mark member same =>
        absent (List.any_eq_true.mpr ⟨mark, member, same⟩)
    rw [markValues, List.filter_append, none]
    simp

theorem resetPending_setState (tables : Tables) (state : String) :
    (tables.setState state).resetPending = (state != populatedState) := by
  rw [resetPending, setState, head?_markValues_putMark, Bool.eq_iff_iff]
  simp

theorem Sound.setState (sound : tables.Sound) (state : String) :
    (tables.setState state).Sound :=
  sound.restrict (fun _ => true) (fun _ => true) (by simp) (by simp) fun _ _ =>
    ⟨rfl, rfl⟩

theorem sound_emptied (tables : Tables) : tables.emptied.Sound :=
  sound_empty.restrict (fun _ => true) (fun _ => true)
    (by simp [emptied, deleteEdges, deleteEntities])
    (by simp [emptied, deleteEdges, deleteEntities])
    fun _ _ => ⟨rfl, rfl⟩

end Tables

end CachedDirectory
