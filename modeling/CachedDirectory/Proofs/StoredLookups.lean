import CachedDirectory.Proofs.RecordRows
import CachedDirectory.Proofs.RosterChanges

/-!
# Looking up what is stored

What a lookup answers for a place of a sound store: the record of the row that
stands there, in its own spelling and with the ids that are read from the joined
ends of its edges, or that nothing is found if no row stands there.
-/

namespace CachedDirectory

open Text

/-- The ids that are read from a cell in which values were joined. -/
def joinedIds (values : List SqlValue) : List String :=
  match joinValues values with
  | .ok (.text content) => Converter.splitCell content
  | _ => []

theorem readMany_standard {row : ResultRow} {column : Column}
    {values : List SqlValue} (sort : column.kind = .multiValued)
    (found :
      row.get? column.resultName =
        some ((joinValues values).toOption.getD .null)) :
    readMany .standard row column = joinedIds values := by
  rw [readMany, Tables.readColumn_standard found, sort, joinedIds]
  rcases joinValues values with error | cell
  · rfl
  · cases cell with
    | text content =>
        have read : Converter.standardFromStore .multiValued (.text content) =
            AttributeValue.ofList (Converter.splitCell content) := rfl
        simp only [Except.toOption, Option.getD_some, read]
        cases Converter.splitCell content <;> rfl
    | null | integer | blob => rfl

namespace Tables

variable {tables : Tables} {row : EntityRow}

theorem ofRow_group (tables : Tables) (key : String) (group : Group)
    (version : Nat) :
    Entity.ofRow .standard
      (tables.result { EntityRow.ofGroup key group with version := version }) =
      .ok (.group
        { group with
          memberOf := joinedIds (tables.groupIds (.ofGroup key group))
          members := joinedIds (tables.memberIds (.ofGroup key group)) }) := by
  let read :=
    tables.result { EntityRow.ofGroup key group with version := version }
  have kind :
      (readText .standard read .type).bind EntityKind.parse? = some .group :=
    readText_type rfl
  have id : readText .standard read .id = some group.id :=
    readText_standard (Or.inl rfl) rfl
  have description : readText .standard read .description = group.description :=
    readText_standard (Or.inr rfl) rfl
  have memberOf : readMany .standard read .memberOf =
      joinedIds (tables.groupIds (.ofGroup key group)) :=
        readMany_standard rfl rfl
  have members : readMany .standard read .members =
      joinedIds (tables.memberIds (.ofGroup key group)) :=
        readMany_standard rfl rfl
  rw [Entity.ofRow, kind, id, description, memberOf, members]

theorem ofRow_user (tables : Tables) (key : String) (user : User)
    (version : Nat) :
    Entity.ofRow .standard
      (tables.result { EntityRow.ofUser key user with version := version }) =
      .ok (.user { user with
          memberOf := joinedIds (tables.groupIds (.ofUser key user)) }) := by
  let read :=
    tables.result { EntityRow.ofUser key user with version := version }
  have kind :
      (readText .standard read .type).bind EntityKind.parse? = some .user :=
    readText_type rfl
  have id : readText .standard read .id = some user.id :=
    readText_standard (Or.inl rfl) rfl
  have displayName : readText .standard read .displayName = user.displayName :=
    readText_standard (Or.inr rfl) rfl
  have firstName : readText .standard read .firstName = user.firstName :=
    readText_standard (Or.inr rfl) rfl
  have lastName : readText .standard read .lastName = user.lastName :=
    readText_standard (Or.inr rfl) rfl
  have email : readText .standard read .email = user.email :=
    readText_standard (Or.inr rfl) rfl
  have active :
      (readColumn .standard read .active != some (.flag false)) =
          user.active := by
    have found : read.get? Column.active.resultName =
        some (NumericCell.ofBool user.active).received := rfl
    rw [readColumn_standard found]
    cases user.active <;> decide
  have memberOf : readMany .standard read .memberOf =
      joinedIds (tables.groupIds (.ofUser key user)) :=
        readMany_standard rfl rfl
  rw [Entity.ofRow, kind, id, displayName, firstName, lastName, email,
    active, memberOf]

/-! ## The row at a place -/

theorem Sound.eq_of_place (sound : tables.Sound) {left right : EntityRow}
    (leftStored : left ∈ tables.entities)
    (rightStored : right ∈ tables.entities) (same : left.place = right.place) :
    left = right :=
  List.inj_on_of_nodup_map sound.nodup_places leftStored rightStored same

theorem storedEntity_of_absent {converter : Converter} {kind : EntityKind}
    {id : String} (absent : placeOf kind id ∉ tables.places) :
    Replica.storedEntity converter kind id tables =
        .error (.notFound kind id) := by
  have none : tables.entityRows (.text kind.name) (.text (fold id)) = [] := by
    apply List.eq_nil_iff_forall_not_mem.mpr
    intro row found
    obtain ⟨stored, placed⟩ := mem_entityRows_iff.mp found
    exact absent (List.mem_map.mpr ⟨row, stored, placed⟩)
  rw [Replica.storedEntity, selectEntity, none]
  rfl

theorem Sound.storedEntity_of_mem (sound : tables.Sound) {converter : Converter}
    {kind : EntityKind} {id : String} (stored : row ∈ tables.entities)
    (placed : row.place = placeOf kind id) :
    Replica.storedEntity converter kind id tables =
        Entity.ofRow converter (tables.result row) := by
  have found : row ∈ tables.entityRows (.text kind.name) (.text (fold id)) :=
    mem_entityRows_iff.mpr ⟨stored, placed⟩
  rcases rows : tables.entityRows (.text kind.name) (.text (fold id)) with
      _ | ⟨first, rest⟩
  · rw [rows] at found
    cases found
  · have listed :
        first ∈ tables.entityRows (.text kind.name) (.text (fold id)) := by
      simp [rows]
    obtain ⟨firstStored, firstPlaced⟩ := mem_entityRows_iff.mp listed
    obtain rfl :=
      sound.eq_of_place stored firstStored (placed.trans firstPlaced.symm)
    rw [Replica.storedEntity, selectEntity, rows, sound.projectAll_eq]
    rfl

theorem Sound.storedEntity_group (sound : tables.Sound) {group : Group}
    {version : Nat} {id : String}
    (stored :
      { EntityRow.ofGroup (fold group.id) group with version := version } ∈
        tables.entities) (same : fold id = fold group.id) :
    Replica.storedEntity .standard .group id tables =
      .ok (.group
        { group with
          memberOf :=
            joinedIds (tables.groupIds (.ofGroup (fold group.id) group))
          members :=
            joinedIds (tables.memberIds
              (.ofGroup (fold group.id) group)) }) := by
  rw [sound.storedEntity_of_mem stored (placeOf_inj.mpr same.symm), ofRow_group]

theorem Sound.storedEntity_user (sound : tables.Sound) {user : User}
    {version : Nat} {id : String}
    (stored :
      { EntityRow.ofUser (fold user.id) user with version := version } ∈
        tables.entities) (same : fold id = fold user.id) :
    Replica.storedEntity .standard .user id tables =
      .ok (.user
        { user with
          memberOf :=
            joinedIds (tables.groupIds
              (.ofUser (fold user.id) user)) }) := by
  rw [sound.storedEntity_of_mem stored (placeOf_inj.mpr same.symm), ofRow_user]

end Tables

/-- A lookup of a kind that is stored reads the tables, once they may be
read. -/
theorem Replica.run_lookup {replica : Replica} {tables : Tables}
    (readable : replica.readTables = .ok tables) {kind : EntityKind}
    (persisted : kind.isPersisted = true) (id : String) :
    (lookup kind id).run replica =
      (storedEntity replica.converter kind id tables, replica) := by
  unfold lookup
  simp only [Action.observe, if_pos persisted, readable]
  rfl

end CachedDirectory
