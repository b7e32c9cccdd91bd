import CachedDirectory.Filter.Evaluation
import CachedDirectory.Proofs.FoldedTexts
import CachedDirectory.Proofs.StoredRecords
import CachedDirectory.Store.Selection
import Mathlib.Data.List.Perm.Basic

/-!
# Entities of stored rows

A stored row denotes an entity: its own texts as they are shown, and the ids at
the other ends of its edges. Column by column, what a condition sees of the row
is the stored form of what the entity has.
-/

namespace CachedDirectory

open CachedDirectory.Filter Text

namespace Tables

/-- The entity that a row denotes. -/
def denoted (tables : Tables) (row : EntityRow) : Entity :=
  let id := (row.id.text?).getD ""
  let memberOf := (tables.groupIds row).filterMap SqlValue.text?
  let members := (tables.memberIds row).filterMap SqlValue.text?
  if row.isGroup.isYes then
    .group ⟨id, row.description.text?, memberOf, members⟩
  else
    .user
      ⟨id, row.displayName.text?, row.firstName.text?, row.lastName.text?,
        row.email.text?,
        row.active != .ofBool false, memberOf⟩

end Tables

@[simp]
theorem SqlValue.text?_ofText? (value : Option String) :
    (SqlValue.ofText? value).text? = value := by
  cases value <;> rfl

theorem AttributeValue.isSome_ofList (values : List String) :
    (AttributeValue.ofList values).isSome = !values.isEmpty := by
  cases values <;> rfl

theorem NumericCell.ofBool_bne_false (flag : Bool) :
    (NumericCell.ofBool flag != .ofBool false) = flag := by
  cases flag <;> decide

theorem EntityRow.IsRecord.exists_id {row : EntityRow} (record : row.IsRecord) :
    ∃ id, row.id = .text id ∧ row.key = .text (fold id) := by
  cases record with
  | group group => exact ⟨group.id, rfl, rfl⟩
  | user user => exact ⟨user.id, rfl, rfl⟩

namespace Tables

variable {tables : Tables} {row : EntityRow}

/-! ## The ends of edges -/

/-- The cells in which stored texts are compared. -/
def comparedTexts (tables : Tables) : List String :=
  tables.entities.flatMap fun row =>
    Column.all.filterMap fun column => (row.comparable column).text?

theorem mem_comparedTexts {column : Column} {content : String}
    (stored : row ∈ tables.entities)
    (cell : row.comparable column = .text content) :
    content ∈ tables.comparedTexts := by
  have listed : column ∈ Column.all := by cases column <;> decide
  have shown : (row.comparable column).text? = some content := by rw [cell]; rfl
  exact List.mem_flatMap.mpr
    ⟨row, stored, List.mem_filterMap.mpr ⟨column, listed, shown⟩⟩

/-- Whether rows are those at the end of an edge with a key: there is one, and
all of them have the key, which is that of their id. -/
def AreEnds (tables : Tables) (key : SqlValue) (rows : List EntityRow) : Prop :=
  (∃ row, row ∈ rows) ∧
    ∀ row ∈ rows,
      row ∈ tables.entities ∧ ∃ id, row.id = .text id ∧ key = .text (fold id) ∧
      row.key = key

theorem Sound.areEnds {kind key : SqlValue} (sound : tables.Sound)
    (taken : (kind, key) ∈ tables.places) :
    tables.AreEnds key (tables.entityRows kind key) := by
  obtain ⟨row, stored, place⟩ := List.mem_map.mp taken
  obtain ⟨id, _, keyOfId⟩ := (sound.isRecord row stored).exists_id
  have kindText : ∃ name, row.kind = .text name := by
    cases sound.isRecord row stored <;> exact ⟨_, rfl⟩
  obtain ⟨name, kindText⟩ := kindText
  obtain ⟨rfl, rfl⟩ : row.kind = kind ∧ row.key = key := Prod.mk.inj place
  rw [kindText, keyOfId]
  constructor
  · refine ⟨row, mem_entityRows_iff.mpr ⟨stored, ?_⟩⟩
    rw [EntityRow.place, kindText, keyOfId]
  · intro other found
    obtain ⟨otherStored, otherPlace⟩ := mem_entityRows_iff.mp found
    obtain ⟨otherId, idText, otherKey⟩ :=
      (sound.isRecord other otherStored).exists_id
    have same : other.key = .text (fold id) := (Prod.mk.inj otherPlace).2
    exact ⟨otherStored, otherId, idText, same.symm.trans otherKey, same⟩

/-- What holds of the folded ids at the ends of edges holds of the keys of the
edges. -/
theorem any_foldedIds {edges : List EdgeRow} {keyAt : EdgeRow → SqlValue}
    {rowsAt : EdgeRow → List EntityRow}
    (ends : ∀ edge ∈ edges, tables.AreEnds (keyAt edge) (rowsAt edge))
    (property : SqlValue → Bool) :
    ((((edges.flatMap fun edge => (rowsAt edge).map (·.id)).filterMap
      SqlValue.text?).map
        fun id => SqlValue.text (fold id)).any property) =
      edges.any fun edge => property (keyAt edge) := by
  rw [Bool.eq_iff_iff, List.any_eq_true, List.any_eq_true]
  constructor
  · rintro ⟨cell, listed, holds⟩
    obtain ⟨id, idListed, rfl⟩ := List.mem_map.mp listed
    obtain ⟨idCell, atEdge, idText⟩ := List.mem_filterMap.mp idListed
    obtain ⟨edge, member, atEdge⟩ := List.mem_flatMap.mp atEdge
    obtain ⟨row, found, rfl⟩ := List.mem_map.mp atEdge
    obtain ⟨_, other, otherText, key, _⟩ := (ends edge member).2 row found
    rw [otherText] at idText
    cases idText
    exact ⟨edge, member, key ▸ holds⟩
  · rintro ⟨edge, member, holds⟩
    obtain ⟨row, found⟩ := (ends edge member).1
    obtain ⟨_, id, idText, key, _⟩ := (ends edge member).2 row found
    refine ⟨.text (fold id), List.mem_map.mpr ⟨id, ?_, rfl⟩, key ▸ holds⟩
    refine List.mem_filterMap.mpr ⟨row.id, ?_, by rw [idText]; rfl⟩
    exact List.mem_flatMap.mpr
      ⟨edge, member, List.mem_map.mpr ⟨row, found, rfl⟩⟩

/-- The folded ids at the ends of edges are keys of stored rows. -/
theorem mem_comparedTexts_of_foldedId {edges : List EdgeRow}
    {keyAt : EdgeRow → SqlValue} {rowsAt : EdgeRow → List EntityRow}
    (ends : ∀ edge ∈ edges, tables.AreEnds (keyAt edge) (rowsAt edge))
    {id : String}
    (listed :
      id ∈ (edges.flatMap fun edge => (rowsAt edge).map (·.id)).filterMap
        SqlValue.text?) :
    fold id ∈ tables.comparedTexts := by
  obtain ⟨idCell, atEdge, idText⟩ := List.mem_filterMap.mp listed
  obtain ⟨edge, member, atEdge⟩ := List.mem_flatMap.mp atEdge
  obtain ⟨row, found, rfl⟩ := List.mem_map.mp atEdge
  obtain ⟨stored, other, otherText, key, same⟩ := (ends edge member).2 row found
  rw [otherText] at idText
  cases idText
  have cell : row.comparable .id = .text (fold id) := same.trans key
  exact mem_comparedTexts stored cell

/-! ## Columns -/

/-- How the cells of a row in a column and the values of an entity
correspond. -/
inductive Correspond (tables : Tables) (row : EntityRow) (entity : Entity)
    (column : Column) : Prop
  /-- A cell that holds the stored form of the one value. -/
  | filled (content : String)
      (sort :
        column.kind = .discriminator ∨ column.kind = .identifier ∨
          column.kind = .text)
      (cell : row.comparable column = .text content)
      (lowered : column.kind ≠ .discriminator → IsLowered content.toList)
      (values : storedValues .standard entity column = [.text content])
      (present : (entity.value? column).isSome = true)
  | missing (sort : column.kind = .text) (cell : row.comparable column = .null)
      (values : storedValues .standard entity column = [])
      (absent : (entity.value? column).isSome = false)
  | flag (value : Bool) (sort : column.kind = .boolean)
      (cell : row.active = .ofBool value)
      (values : storedValues .standard entity column = [.ofBool value])
      (present : (entity.value? column).isSome = true)
  /-- Edges whose other ends are the stored forms of the values. -/
  | linked (sort : column.kind = .multiValued) (ids : List String)
      (keys :
        ∀ property : SqlValue → Truth, tables.someKey row column property =
        .ofBool ((ids.map fun id => SqlValue.text (fold id)).any fun key =>
          (property key).isYes))
      (values :
        storedValues .standard entity column =
          ids.map fun id => .text (fold id))
      (present : (entity.value? column).isSome = !ids.isEmpty)
      (compared : ∀ id ∈ ids, fold id ∈ tables.comparedTexts)

/-- The stored forms of the values of a column that keeps folded texts. -/
theorem storedValues_of_folded {entity : Entity} {column : Column}
    {value : AttributeValue}
    (sort :
      column.kind = .identifier ∨ column.kind = .text ∨
        column.kind = .multiValued)
    (found : entity.value? column = some value) :
    storedValues .standard entity column =
      value.values.map fun content => .text (fold content) := by
  have stored (content : String) :
      Converter.standard.toStore column content =
          some (.text (fold content)) := by
    show Converter.standardToStore column.kind content = _
    rcases sort with sort | sort | sort <;> rw [sort] <;> rfl
  rw [storedValues, found]
  show value.values.filterMap (Converter.standard.toStore column) = _
  rw [funext stored, List.filterMap_eq_map']

theorem correspond_text {entity : Entity} {column : Column}
    (value : Option String) (sort : column.kind = .text)
    (found : entity.value? column = value.map .text)
    (cell : row.comparable column = EntityRow.foldedCell value) :
    Correspond tables row entity column := by
  cases value with
  | none =>
      refine .missing sort cell ?_ (by rw [found]; rfl)
      rw [storedValues, found]
      rfl
  | some content =>
      refine .filled (fold content) (Or.inr (Or.inr sort)) cell
        (fun _ => isLowered_fold content) ?_
        (by rw [found]; rfl)
      exact storedValues_of_folded (Or.inr (Or.inl sort)) found

theorem correspond_id {entity : Entity} {id : String}
    (found : entity.value? .id = some (.text id))
    (cell : row.comparable .id = .text (fold id)) :
    Correspond tables row entity .id :=
  .filled (fold id) (Or.inr (Or.inl rfl)) cell (fun _ => isLowered_fold id)
    (storedValues_of_folded (Or.inl rfl) found) (by rw [found]; rfl)

theorem correspond_type {entity : Entity} (kind : EntityKind)
    (found : entity.value? .type = some (.text kind.name))
    (cell : row.comparable .type = .text kind.name) :
    Correspond tables row entity .type := by
  refine .filled kind.name (Or.inl rfl) cell (fun other => absurd rfl other) ?_
    (by rw [found]; rfl)
  rw [storedValues, found]
  cases kind <;> decide

theorem correspond_active {entity : Entity} {flag : Bool}
    (found : entity.value? .active = some (.flag flag))
    (cell : row.active = .ofBool flag) :
    Correspond tables row entity .active := by
  refine .flag flag rfl cell ?_ (by rw [found]; rfl)
  rw [storedValues, found]
  cases flag <;> decide

/-- A column of ids corresponds to the edges whose other ends have the folded
ids as keys. -/
theorem correspond_ids {entity : Entity} {column : Column} {ids : List String}
    (sort : column.kind = .multiValued)
    (found : entity.value? column = AttributeValue.ofList ids)
    (keys :
      ∀ property : SqlValue → Truth,
        tables.someKey row column property =
          .ofBool ((ids.map fun id => SqlValue.text (fold id)).any fun key =>
            (property key).isYes))
    (compared : ∀ id ∈ ids, fold id ∈ tables.comparedTexts) :
    Correspond tables row entity column := by
  refine .linked sort ids keys ?_ ?_ compared
  · cases ids with
    | nil =>
        rw [storedValues, found]
        rfl
    | cons id rest => exact storedValues_of_folded (Or.inr (Or.inr sort)) found
  · rw [found, AttributeValue.isSome_ofList]

theorem correspond_linked {entity : Entity} {column : Column}
    {edges : List EdgeRow} {keyAt : EdgeRow → SqlValue}
    {rowsAt : EdgeRow → List EntityRow} (sort : column.kind = .multiValued)
    (found :
      entity.value? column =
        AttributeValue.ofList
          ((edges.flatMap fun edge => (rowsAt edge).map (·.id)).filterMap
          SqlValue.text?))
    (ends : ∀ edge ∈ edges, tables.AreEnds (keyAt edge) (rowsAt edge))
    (keys :
      ∀ property : SqlValue → Truth,
        tables.someKey row column property =
          .ofBool (edges.any fun edge => (property (keyAt edge)).isYes)) :
    Correspond tables row entity column := by
  refine correspond_ids sort found ?_ fun id listed =>
    mem_comparedTexts_of_foldedId ends listed
  intro property
  rw [keys, any_foldedIds ends fun key => (property key).isYes]

theorem Sound.correspond_memberOf (sound : tables.Sound) {entity : Entity}
    (found : entity.value? .memberOf =
      AttributeValue.ofList ((tables.groupIds row).filterMap SqlValue.text?)) :
    Correspond tables row entity .memberOf := by
  apply correspond_linked rfl found
  · intro edge member
    exact sound.areEnds (sound.ends edge (List.mem_of_mem_filter member)).1
  · intro property
    rw [List.any_filter]
    simp [someKey, someEdge, edgeKeys]

theorem Sound.correspond_members (sound : tables.Sound) {entity : Entity}
    (group : row.isGroup.isYes = true)
    (found : entity.value? .members =
      AttributeValue.ofList ((tables.memberIds row).filterMap SqlValue.text?)) :
    Correspond tables row entity .members := by
  apply correspond_linked rfl found
  · intro edge member
    have listed :=
      List.mem_of_mem_filter ((List.mergeSort_perm _ _).mem_iff.mp member)
    exact sound.areEnds (sound.ends edge listed).2
  · intro property
    rw [(List.mergeSort_perm _ _).any_eq, List.any_filter]
    simp [someKey, someEdge, edgeKeys, group]

theorem denoted_ofGroup (tables : Tables) (key : String) (group : Group)
    (version : Nat) :
    tables.denoted { EntityRow.ofGroup key group with version := version } =
      .group ⟨group.id, group.description,
        (tables.groupIds
          { EntityRow.ofGroup key group with version := version }).filterMap
          SqlValue.text?,
        (tables.memberIds
          { EntityRow.ofGroup key group with version := version }).filterMap
          SqlValue.text?⟩ := by
  simp [denoted, EntityRow.isGroup, EntityRow.ofGroup]

theorem denoted_ofUser (tables : Tables) (key : String) (user : User)
    (version : Nat) :
    tables.denoted { EntityRow.ofUser key user with version := version } =
      .user ⟨user.id, user.displayName, user.firstName, user.lastName,
        user.email, user.active,
        (tables.groupIds
          { EntityRow.ofUser key user with version := version }).filterMap
          SqlValue.text?⟩ := by
  have other : EntityKind.user.name ≠ EntityKind.group.name := by decide
  simp [denoted, EntityRow.isGroup, EntityRow.ofUser, other,
    NumericCell.ofBool_bne_false]

/-- Every column that the kind of a stored row has corresponds to that of the
entity it denotes. -/
theorem Sound.correspond (sound : tables.Sound) (stored : row ∈ tables.entities)
    {scope : EntityKind} (kind : row.kind = .text scope.name) {column : Column}
    (has : scope.hasColumn column = true) :
    Correspond tables row (tables.denoted row) column := by
  cases sound.isRecord row stored with
  | group group version named =>
      obtain rfl : scope = .group :=
        EntityKind.name_injective (SqlValue.text.inj kind).symm
      rw [denoted_ofGroup]
      cases column with
      | type => exact correspond_type .group rfl rfl
      | id => exact correspond_id rfl rfl
      | description => exact correspond_text group.description rfl rfl rfl
      | memberOf => exact sound.correspond_memberOf rfl
      | members => exact sound.correspond_members rfl rfl
      | displayName | firstName | lastName | email | active =>
          exact absurd has (by decide)
  | user user version named =>
      obtain rfl : scope = .user :=
        EntityKind.name_injective (SqlValue.text.inj kind).symm
      rw [denoted_ofUser]
      cases column with
      | type => exact correspond_type .user rfl rfl
      | id => exact correspond_id rfl rfl
      | displayName => exact correspond_text user.displayName rfl rfl rfl
      | firstName => exact correspond_text user.firstName rfl rfl rfl
      | lastName => exact correspond_text user.lastName rfl rfl rfl
      | email => exact correspond_text user.email rfl rfl rfl
      | active => exact correspond_active rfl rfl
      | memberOf => exact sound.correspond_memberOf rfl
      | description | members => exact absurd has (by decide)

end Tables

end CachedDirectory
