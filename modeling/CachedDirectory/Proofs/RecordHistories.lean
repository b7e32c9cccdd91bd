import CachedDirectory.Proofs.RecordRuns

/-!
# Histories of records

A committed change of a store is a deed: it writes one record, or removes one,
all of a kind or all of them, or leaves the records alone. A history of deeds
tells which record every place of the store holds. Actions on a replica are told
as histories here: those that make one change, those that store records one by
one until one is refused, and the loops over the pages of a roster.
-/

namespace CachedDirectory

open Text

/-- What a committed change does to the stored records. -/
inductive Deed where
  | wrote (record : Record)
  | dropped (kind : EntityKind) (key : String)
  | cleared (kind : EntityKind)
  | emptied
  /-- Edges or marks were changed. -/
  | elsewhere
deriving DecidableEq, Repr

namespace Deed

variable {kind : EntityKind} {key : String} {deed : Deed} {history : List Deed}
  {record : Record}

/-- Whether a deed concerns the entity of a kind with a folded id. -/
def concerns (kind : EntityKind) (key : String) : Deed → Bool
  | wrote record => record.kind == kind && fold record.id == key
  | dropped other otherKey => other == kind && otherKey == key
  | cleared other => other == kind
  | emptied => true
  | elsewhere => false

/-- The record that was written. -/
def record? : Deed → Option Record
  | wrote record => some record
  | dropped _ _ | cleared _ | emptied | elsewhere => none

/-- The record that was left by the last deed that concerns an entity. -/
def latest? (kind : EntityKind) (key : String) (history : List Deed) :
    Option Record :=
  (history.filter (concerns kind key)).getLast?.bind record?

/-- The deeds of writing records until one has a blank id. -/
def writes (records : List Record) : List Deed :=
  (records.takeWhile fun record => !isBlank record.id).map wrote

theorem latest?_append (kind : EntityKind) (key : String) (history : List Deed)
    (deed : Deed) :
    latest? kind key (history ++ [deed]) =
      if deed.concerns kind key then deed.record? else
          latest? kind key history := by
  by_cases concerned : deed.concerns kind key = true
  · simp [latest?, concerned]
  · simp [latest?, concerned]

theorem latest?_eq_some_iff :
    latest? kind key history = some record ↔
      ∃ earlier later, history = earlier ++ wrote record :: later ∧
        (record.kind = kind ∧ fold record.id = key) ∧
          ∀ deed ∈ later, deed.concerns kind key = false := by
  have concerned : (wrote record).concerns kind key = true ↔
      record.kind = kind ∧ fold record.id = key := by
    simp [concerns]
  constructor
  · intro latest
    obtain ⟨deed, last, written⟩ := Option.bind_eq_some_iff.mp latest
    obtain rfl : deed = wrote record := by
      cases deed with
      | wrote other => exact congrArg wrote (Option.some.inj written)
      | dropped | cleared | emptied | elsewhere => cases written
    obtain ⟨front, filtered⟩ := List.getLast?_eq_some_iff.mp last
    obtain ⟨earlier, rest, rfl, _, ending⟩ :=
      List.filter_eq_append_iff.mp filtered
    obtain ⟨skipped, later, rfl, _, concerns, nothing⟩ :=
      List.filter_eq_cons_iff.mp ending
    refine ⟨earlier ++ skipped, later, by simp, concerned.mp concerns, ?_⟩
    simpa [List.filter_eq_nil_iff] using nothing
  · rintro ⟨earlier, later, rfl, concerns, nothing⟩
    have none : later.filter (Deed.concerns kind key) = [] := by
      simpa [List.filter_eq_nil_iff] using nothing
    rw [latest?, List.filter_append,
      List.filter_cons_of_pos (concerned.mpr concerns), none]
    simp [record?]

end Deed

/-! ## What a deed does to the rows -/

/-- Whether a deed took tables to others: a place that it concerns holds what
was written, and every other one what it held before. -/
def Deed.Does (deed : Deed) (tables after : Tables) : Prop :=
  ∀ kind key row, row.place = (.text (EntityKind.name kind), .text key) →
    (row ∈ after.records ↔
      if deed.concerns kind key then deed.record?.map Record.row = some row
      else row ∈ tables.records)

/-- Whether the rows of tables are those that a history has left. -/
def Tables.Recalls (tables : Tables) (history : List Deed) : Prop :=
  ∀ kind key row, row.place = (.text (EntityKind.name kind), .text key) →
    (row ∈ tables.records ↔
      (Deed.latest? kind key history).map Record.row = some row)

namespace Deed

variable {tables after : Tables} {deed : Deed} {history : List Deed}

theorem Does.recalls (does : deed.Does tables after)
    (recalls : tables.Recalls history) :
    after.Recalls (history ++ [deed]) := by
  intro kind key row placed
  rw [does kind key row placed, latest?_append]
  by_cases concerned : deed.concerns kind key = true
  · rw [if_pos concerned, if_pos concerned]
  · rw [if_neg concerned, if_neg concerned, recalls kind key row placed]

theorem place_eq_iff {kind other : EntityKind} {key otherKey : String} :
    ((SqlValue.text kind.name, SqlValue.text key) : SqlValue × SqlValue) =
        (.text other.name, .text otherKey) ↔ other = kind ∧ otherKey = key := by
  constructor
  · intro same
    obtain ⟨kinds, keys⟩ := Prod.mk.inj same
    have sameKind := EntityKind.name_injective (SqlValue.text.inj kinds)
    exact ⟨sameKind.symm, (SqlValue.text.inj keys).symm⟩
  · rintro ⟨rfl, rfl⟩
    rfl

theorem does_wrote (record : Record) (tables : Tables) :
    (wrote record).Does tables (tables.upsertEntity record.row) := by
  intro kind key row placed
  have same :
      row.place = record.row.place ↔
          (wrote record).concerns kind key = true := by
    rw [placed, record.place_row, place_eq_iff]
    simp [concerns]
  rw [Tables.mem_records_upsertEntity, record.unversioned_row]
  by_cases concerned : (wrote record).concerns kind key = true
  · rw [if_pos concerned]
    simp [record?, same.mpr concerned, eq_comm]
  · have apart : row.place ≠ record.row.place := mt same.mp concerned
    have different : row ≠ record.row :=
      fun equal => apart (congrArg EntityRow.place equal)
    simp [concerned, apart, different]

theorem does_dropped {kind : EntityKind} {key : String}
    (entities : after.entities = tables.entities.filter fun row =>
      !decide (row.place = (.text kind.name, .text key))) :
    (dropped kind key).Does tables after := by
  intro other otherKey row placed
  rw [Tables.mem_records_of_filter entities, placed, Ne, place_eq_iff]
  by_cases concerned : kind = other ∧ key = otherKey
  · obtain ⟨rfl, rfl⟩ := concerned
    simp [concerns, record?]
  · simp [concerned, concerns]

theorem does_cleared {kind : EntityKind}
    (entities : after.entities = tables.entities.filter fun row =>
      !decide (row.place.1 = .text kind.name)) :
    (cleared kind).Does tables after := by
  intro other otherKey row placed
  rw [Tables.mem_records_of_keep
    (fun place => !decide (place.1 = .text kind.name)) entities, placed]
  by_cases concerned : kind = other
  · simp [concerned, concerns, record?]
  · have apart : other.name ≠ kind.name :=
      fun same => concerned (EntityKind.name_injective same).symm
    simp [concerned, concerns, apart]

theorem does_emptied (tables : Tables) :
    emptied.Does tables tables.emptied := by
  intro kind key row placed
  simp [concerns, record?, Tables.records, Tables.emptied,
    Tables.deleteEntities]

theorem does_elsewhere (same : after.entities = tables.entities) :
    elsewhere.Does tables after := by
  intro kind key row placed
  simp [concerns, Tables.records, same]

end Deed

/-! ## What an action does -/

/-- Whether a replica holds the records that a history has left, and has counted
its deeds. -/
structure Replica.Recalls (replica : Replica) (history : List Deed) : Prop where
  records : replica.tables.Recalls history
  counted : replica.generation = history.length

namespace Replica

variable {replica : Replica} {history : List Deed} {deed : Deed}

theorem Recalls.commit (recalls : replica.Recalls history) {tables : Tables}
    (does : deed.Does replica.tables tables) :
    Recalls { replica with
      tables := tables, generation := replica.generation + 1 }
      (history ++ [deed]) where
  records := does.recalls recalls.records
  counted := by
    rw [List.length_append, ← recalls.counted]
    rfl

theorem recalls_writing (recalls : replica.Recalls history)
    (records : List Record) :
    (replica.writing records).Recalls (history ++ records.map .wrote) := by
  induction records generalizing replica history with
  | nil => simpa [writing, Tables.writing] using recalls
  | cons record rest inductionHypothesis =>
      rw [writing_cons, List.map_cons, List.append_cons]
      exact inductionHypothesis
        (recalls.commit (Deed.does_wrote record replica.tables))

end Replica

/-- Whether an action on an open replica is a deed, or else fails and changes
nothing. -/
def Deed.IsDoneBy {α : Type} (deed : Deed) (action : Action Replica α) : Prop :=
  ∀ replica : Replica, replica.isOpen = true →
    (∃ error, action.run replica = (.error error, replica)) ∨
      ∃ value after, action.run replica = (.ok value, after) ∧
        deed.Does replica.tables after.tables ∧
          after.generation = replica.generation + 1

namespace Deed

variable {deed : Deed} {α : Type}

theorem isDoneBy_write {change : Tables → Answer (α × Tables)}
    (does :
      ∀ tables value after,
        change tables = .ok (value, after) → deed.Does tables after) :
    deed.IsDoneBy (Replica.write change) := by
  intro replica _
  rcases Replica.run_write_cases change replica with
      refused | ⟨value, tables, _, changed, ran⟩
  · exact Or.inl refused
  · exact Or.inr ⟨value, _, ran, does _ value tables changed, rfl⟩

theorem isDoneBy_update {change : Tables → Tables}
    (does : ∀ tables, deed.Does tables (change tables)) :
    deed.IsDoneBy (Replica.update change) := by
  apply isDoneBy_write
  intro tables value after changed
  cases changed
  exact does tables

theorem isDoneBy_dropCounted {drop : Tables → Tables}
    (does : ∀ tables, deed.Does tables (drop tables)) :
    deed.IsDoneBy (Replica.dropCounted drop) := by
  apply isDoneBy_write
  intro tables value after changed
  cases changed
  exact does tables

theorem isDoneBy_reset : emptied.IsDoneBy Replica.reset := by
  intro replica opened
  exact Or.inr ⟨⟨⟩, _, Replica.run_reset_of_open opened,
    does_emptied replica.tables, rfl⟩

theorem isDoneBy_setState (state : String) :
    elsewhere.IsDoneBy (Replica.update fun tables => tables.setState state) :=
  isDoneBy_update fun tables => does_elsewhere (tables.entities_setState state)

theorem isDoneBy_upsertMembership (edge : Membership) :
    elsewhere.IsDoneBy (Replica.upsertMembership edge) := by
  intro replica _
  rcases Replica.run_upsertMembership edge replica with
    ⟨reason, ran⟩ | ⟨_, kind, id, ran⟩ | ⟨_, ran⟩
  · exact Or.inl ⟨_, ran⟩
  · exact Or.inl ⟨_, ran⟩
  · exact Or.inr ⟨_, _, ran, does_elsewhere (Tables.entities_upsertEdge _ _),
      rfl⟩

theorem isDoneBy_storeRow (record : Record) :
    (wrote record).IsDoneBy (Replica.storeRow record.row) :=
  isDoneBy_update (does_wrote record)

theorem isDoneBy_upsertCopying (record : Record) (source : String) :
    (wrote record).IsDoneBy
        (Replica.write (Tables.upsertCopying record.row source)) := by
  apply isDoneBy_write
  intro tables value after copied
  obtain ⟨_, rfl⟩ := Tables.upsertCopying_eq_ok_iff.mp copied
  have written := does_wrote record tables
  intro kind key other placed
  rw [Tables.records, Tables.entities_copyEdges]
  exact written kind key other placed

end Deed

end CachedDirectory
