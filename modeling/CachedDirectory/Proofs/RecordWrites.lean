import CachedDirectory.Proofs.RecordRuns

/-!
# Writing records

Records with different places are written one after the other. In the place of
each then stands its row, which counts one more write than the row that stood
there, and nothing else has changed. Writing them again changes nothing but
these counts.
-/

namespace CachedDirectory

open Text

namespace Tables

variable {tables between after : Tables} {record : Record}
  {records rest : List Record}
  {place : SqlValue × SqlValue}

/-- The rows that stand at a place. -/
def rowsAt (tables : Tables) (place : SqlValue × SqlValue) : List EntityRow :=
  tables.entities.filter fun row => row.place = place

/-- How often the row at a place was written; never if there is none. -/
def writesAt (tables : Tables) (place : SqlValue × SqlValue) : Nat :=
  ((tables.rowsAt place).head?.map EntityRow.version).getD 0

/-- Whether tables hold the rows of records, each counted one up, and else the
rows of others. -/
structure Gains (tables : Tables) (records : List Record) (after : Tables) :
    Prop where
  written : ∀ record ∈ records, after.rowsAt record.row.place =
    [{ record.row with version := tables.writesAt record.row.place + 1 }]
  others : ∀ place, (∀ record ∈ records, record.row.place ≠ place) →
    after.rowsAt place = tables.rowsAt place

/-- Whether tables have gained records and nothing else has changed. -/
structure GainsOnly (tables : Tables) (records : List Record) (after : Tables) :
    Prop
    extends Gains tables records after where
  edges : after.edges = tables.edges
  marks : after.marks = tables.marks

theorem rowsAt_congr (same : tables.entities = after.entities)
    (place : SqlValue × SqlValue) :
    tables.rowsAt place = after.rowsAt place := by
  rw [rowsAt, rowsAt, same]

theorem rowsAt_of_not_mem (free : place ∉ tables.places) :
    tables.rowsAt place = [] := by
  apply List.filter_eq_nil_iff.mpr
  intro row stored placed
  exact free (List.mem_map.mpr ⟨row, stored, of_decide_eq_true placed⟩)

theorem Gains.congr (gains : tables.Gains records between)
    (same : after.entities = between.entities) :
    tables.Gains records after where
  written record member :=
    (rowsAt_congr same _).trans (gains.written record member)
  others place elsewhere :=
    (rowsAt_congr same place).trans (gains.others place elsewhere)

/-- No two rows stand at the same place. -/
theorem length_rowsAt_le_one (distinct : tables.places.Nodup)
    (place : SqlValue × SqlValue) :
    (tables.rowsAt place).length ≤ 1 := by
  have count := List.nodup_iff_count_le_one.mp distinct place
  rw [places, List.count, List.countP_map,
    List.countP_eq_length_filter] at count
  have same : ((fun other => other == place) ∘ EntityRow.place) =
      fun row : EntityRow => decide (row.place = place) := by
    funext other
    rw [Bool.eq_iff_iff]
    simp
  rwa [same] at count

theorem exists_rowsAt (distinct : tables.places.Nodup)
    (taken : place ∈ tables.places) :
    ∃ row, row.place = place ∧ tables.rowsAt place = [row] := by
  obtain ⟨row, stored, placed⟩ := List.mem_map.mp taken
  have listed : row ∈ tables.rowsAt place :=
    List.mem_filter.mpr ⟨stored, by simp [placed]⟩
  obtain ⟨only, all⟩ := List.length_eq_one_iff.mp
    (Nat.le_antisymm (length_rowsAt_le_one distinct place)
      (List.length_pos_of_mem listed))
  rw [all, List.mem_singleton] at listed
  exact ⟨row, placed, by rw [all, listed]⟩

/-! ## One record -/

theorem entities_upsertEntity_of_mem {row : EntityRow}
    (taken : row.place ∈ tables.places) :
    (tables.upsertEntity row).entities = tables.entities.map fun other =>
      if other.place =
          row.place then { row with version := other.version + 1 } else
              other := by
  unfold upsertEntity
  rw [if_pos (any_samePlace_iff.mpr taken)]
  apply List.map_congr_left
  intro other _
  by_cases same : other.place = row.place
  · rw [if_pos (EntityRow.samePlace_iff.mpr same), if_pos same]
  · rw [if_neg (mt EntityRow.samePlace_iff.mp same), if_neg same]

/-- A row that replaces another one stands where that one stood. -/
theorem rowsAt_upsertEntity_of_mem {row : EntityRow}
    (taken : row.place ∈ tables.places) :
    (tables.upsertEntity row).rowsAt place =
      (tables.rowsAt place).map fun other =>
      if other.place =
          row.place then { row with version := other.version + 1 } else
              other := by
  rw [rowsAt, entities_upsertEntity_of_mem taken, List.filter_map, rowsAt]
  congr 1
  apply List.filter_congr
  intro other _
  dsimp only [Function.comp]
  split
  · rename_i same
    rw [EntityRow.place_withVersion, same]
  · rfl

theorem rowsAt_upsertEntity_of_ne {row : EntityRow}
    (apart : row.place ≠ place) :
    (tables.upsertEntity row).rowsAt place = tables.rowsAt place := by
  by_cases taken : row.place ∈ tables.places
  · rw [rowsAt_upsertEntity_of_mem taken]
    apply (List.map_congr_left ?_).trans (List.map_id _)
    intro other listed
    have placed : other.place = place :=
      of_decide_eq_true (List.mem_filter.mp listed).2
    exact if_neg fun same => apart (same.symm.trans placed)
  · rw [rowsAt, entities_upsertEntity_of_not_mem taken, List.filter_append]
    simp [rowsAt, apart]

theorem rowsAt_upsertEntity (distinct : tables.places.Nodup) (row : EntityRow) :
    (tables.upsertEntity row).rowsAt row.place =
      [{ row with version := tables.writesAt row.place + 1 }] := by
  by_cases taken : row.place ∈ tables.places
  · obtain ⟨earlier, placed, only⟩ := exists_rowsAt distinct taken
    rw [rowsAt_upsertEntity_of_mem taken, writesAt, only]
    simp [placed]
  · rw [writesAt, rowsAt_of_not_mem taken, rowsAt,
      entities_upsertEntity_of_not_mem taken, List.filter_append]
    have nothing :
        tables.entities.filter (fun other => other.place = row.place) = [] :=
      rowsAt_of_not_mem taken
    simp [nothing]

/-! ## Several records -/

@[simp]
theorem edges_writing (tables : Tables) (records : List Record) :
    (tables.writing records).edges = tables.edges := by
  induction records generalizing tables with
  | nil => rfl
  | cons record rest inductionHypothesis =>
      exact (inductionHypothesis _).trans (tables.edges_upsertEntity record.row)

@[simp]
theorem marks_writing (tables : Tables) (records : List Record) :
    (tables.writing records).marks = tables.marks := by
  induction records generalizing tables with
  | nil => rfl
  | cons record rest inductionHypothesis =>
      exact (inductionHypothesis _).trans (tables.marks_upsertEntity record.row)

theorem writesAt_upsertEntity_of_ne {row : EntityRow}
    (apart : row.place ≠ place) :
    (tables.upsertEntity row).writesAt place = tables.writesAt place := by
  rw [writesAt, rowsAt_upsertEntity_of_ne apart, writesAt]

/-- Records with different places do not come into each other's way. -/
theorem gains_writing (distinct : tables.places.Nodup)
    (apart : (records.map fun record => record.row.place).Nodup) :
    tables.Gains records (tables.writing records) := by
  induction records generalizing tables with
  | nil => exact ⟨by simp, fun _ _ => rfl⟩
  | cons record rest inductionHypothesis =>
      obtain ⟨fresh, restApart⟩ := List.nodup_cons.mp apart
      have gains :=
        inductionHypothesis (nodup_places_upsertEntity distinct record.row)
          restApart
      have different : ∀ other ∈ rest, other.row.place ≠ record.row.place := by
        intro other member same
        exact fresh (List.mem_map.mpr ⟨other, member, same⟩)
      constructor
      · intro written member
        rcases List.mem_cons.mp member with rfl | member
        · exact (gains.others _ different).trans
            (rowsAt_upsertEntity distinct written.row)
        · rw [← writesAt_upsertEntity_of_ne (different written member).symm]
          exact gains.written written member
      · intro place elsewhere
        have later := gains.others place fun other member =>
          elsewhere other (List.mem_cons_of_mem record member)
        exact later.trans
          (rowsAt_upsertEntity_of_ne (elsewhere record List.mem_cons_self))

theorem gainsOnly_writing (distinct : tables.places.Nodup)
    (apart : (records.map fun record => record.row.place).Nodup) :
    tables.GainsOnly records (tables.writing records) :=
  ⟨gains_writing distinct apart, tables.edges_writing records,
    tables.marks_writing records⟩

theorem nodup_places_writing (distinct : tables.places.Nodup)
    (records : List Record) :
    (tables.writing records).places.Nodup := by
  induction records generalizing tables with
  | nil => exact distinct
  | cons record rest inductionHypothesis =>
      exact inductionHypothesis (nodup_places_upsertEntity distinct record.row)

/-! ## Records that are there already -/

theorem Gains.mem_records (gains : tables.Gains records after)
    (member : record ∈ records) :
    record.row ∈ after.records := by
  let row : EntityRow :=
    { record.row with version := tables.writesAt record.row.place + 1 }
  have listed : row ∈ after.rowsAt record.row.place := by
    rw [gains.written record member]
    exact List.mem_singleton_self row
  rw [← record.unversioned_row]
  exact List.mem_map.mpr ⟨row, (List.mem_filter.mp listed).1, rfl⟩

/-- Writing a row that is there only counts the write. -/
theorem records_upsertEntity_of_mem {row : EntityRow}
    (distinct : tables.places.Nodup)
    (there : row.unversioned ∈ tables.records) :
    (tables.upsertEntity row).records = tables.records := by
  obtain ⟨stored, member, same⟩ := List.mem_map.mp there
  have placed : stored.unversioned.place = row.unversioned.place :=
    congrArg EntityRow.place same
  have taken : row.place ∈ tables.places :=
    List.mem_map.mpr ⟨stored, member, placed⟩
  rw [records, entities_upsertEntity_of_mem taken, List.map_map, records]
  apply List.map_congr_left
  intro other otherMember
  dsimp only [Function.comp]
  split
  · rename_i otherPlaced
    obtain rfl : other = stored :=
      List.inj_on_of_nodup_map distinct otherMember member
      (otherPlaced.trans placed.symm)
    exact same.symm
  · rfl

theorem records_writing_of_mem (distinct : tables.places.Nodup)
    (there : ∀ record ∈ records, record.row ∈ tables.records) :
    (tables.writing records).records = tables.records := by
  induction records generalizing tables with
  | nil => rfl
  | cons record rest inductionHypothesis =>
      have kept :
          (tables.upsertEntity record.row).records = tables.records := by
        apply records_upsertEntity_of_mem distinct
        rw [record.unversioned_row]
        exact there record List.mem_cons_self
      refine Eq.trans
        (inductionHypothesis (nodup_places_upsertEntity distinct record.row) ?_)
        kept
      intro other member
      rw [kept]
      exact there other (List.mem_cons_of_mem record member)

/-- Writing records a second time only counts the writes. -/
theorem records_writing_writing (distinct : tables.places.Nodup)
    (apart : (records.map fun record => record.row.place).Nodup) :
    ((tables.writing records).writing records).records =
        (tables.writing records).records :=
  records_writing_of_mem (nodup_places_writing distinct records) fun _ member =>
    (gains_writing distinct apart).mem_records member

end Tables

end CachedDirectory
