import CachedDirectory.Proofs.Rosters
import CachedDirectory.Proofs.SyncSteps

/-!
# Copies of a roster

A resynchronization from a roster rebuilds the tables from the three lists of
the roster. At every stage the tables hold exactly what was copied so far: a row
for each of the first groups, then for each of the first users, then an edge for
each of the first edges that has both of its ends. A short page ends a list, so
nothing is left out and nothing is copied twice, whatever the length of a page.
-/

namespace CachedDirectory

open Text

namespace EntityRow

/-- The rows of groups. -/
def ofGroups (groups : List Group) : List EntityRow :=
  groups.map fun group => ofGroup (fold group.id) group

/-- The rows of users. -/
def ofUsers (users : List User) : List EntityRow :=
  users.map fun user => ofUser (fold user.id) user

theorem ofGroups_append (groups others : List Group) :
    ofGroups (groups ++ others) = ofGroups groups ++ ofGroups others :=
  List.map_append

theorem ofUsers_append (users others : List User) :
    ofUsers (users ++ others) = ofUsers users ++ ofUsers others :=
  List.map_append

theorem map_place_ofGroups (groups : List Group) :
    (ofGroups groups).map place =
      groups.map fun group =>
          (.text EntityKind.group.name, .text (fold group.id)) := by
  rw [ofGroups, List.map_map]
  rfl

theorem map_place_ofUsers (users : List User) :
    (ofUsers users).map place =
      users.map fun user =>
          (.text EntityKind.user.name, .text (fold user.id)) := by
  rw [ofUsers, List.map_map]
  rfl

end EntityRow

namespace Roster

variable {roster : Roster}

/-- The rows of the groups and the users of a roster. -/
def entityRows (roster : Roster) : List EntityRow :=
  EntityRow.ofGroups roster.groups ++ EntityRow.ofUsers roster.users

/-- The rows of those edges that have both ends. -/
def edgeRowsOf (roster : Roster) (edges : List Membership) : List EdgeRow :=
  (edges.filter roster.connects).map EdgeRow.ofMembership

/-- The rows of the edges of a roster, in order. -/
def edgeRows (roster : Roster) : List EdgeRow :=
  roster.edgeRowsOf roster.sortedEdges

/-- What is reported when the records and some of the edges have been copied. -/
def reportAfter (roster : Roster) (edges : List Membership) : SyncReport where
  performed := true
  groups := roster.groups.length
  users := roster.users.length
  memberships := (edges.filter roster.connects).length
  skipped := (edges.filter fun edge => !roster.connects edge).length

theorem Sound.nodup_places (sound : roster.Sound) :
    (roster.entityRows.map EntityRow.place).Nodup := by
  rw [entityRows, List.map_append, EntityRow.map_place_ofGroups,
    EntityRow.map_place_ofUsers]
  apply List.Nodup.append
  · apply List.pairwise_map.mpr
    exact sound.pairwise_groups.imp fun smaller same => by
      simp only [Prod.mk.injEq, SqlValue.text.injEq, true_and] at same
      exact String.lt_irrefl _ (same ▸ smaller)
  · apply List.pairwise_map.mpr
    exact sound.pairwise_users.imp fun smaller same => by
      simp only [Prod.mk.injEq, SqlValue.text.injEq, true_and] at same
      exact String.lt_irrefl _ (same ▸ smaller)
  · intro place group user
    obtain ⟨_, _, rfl⟩ := List.mem_map.mp group
    obtain ⟨_, _, same⟩ := List.mem_map.mp user
    simp [EntityKind.name] at same

end Roster

namespace Tables

/-- Rows in free places are appended one after the other. -/
theorem foldl_upsertEntity_of_fresh {tables : Tables} {rows : List EntityRow}
    (distinct : (tables.places ++ rows.map EntityRow.place).Nodup)
    (versions : ∀ row ∈ rows, row.version = 1) :
    rows.foldl upsertEntity tables =
        { tables with entities := tables.entities ++ rows } := by
  induction rows generalizing tables with
  | nil => simp
  | cons row rest inductionHypothesis =>
      have fresh : row.place ∉ tables.places := by
        intro taken
        exact (List.nodup_append.mp distinct).2.2 _ taken _
          List.mem_cons_self rfl
      have written : tables.upsertEntity row =
          { tables with entities := tables.entities ++ [row] } := by
        have version : { row with version := 1 } = row := by
          rw [← versions row List.mem_cons_self]
        unfold upsertEntity
        rw [if_neg (mt any_samePlace_iff.mp fresh), version]
      rw [List.foldl_cons, written, inductionHypothesis]
      · simp
      · simpa [places] using distinct
      · exact fun other member =>
          versions other (List.mem_cons_of_mem row member)

/-- Whether both ends of an edge are stored. -/
def holdsEnds (tables : Tables) (edge : Membership) : Bool :=
  tables.holds .group (fold edge.groupId) &&
    tables.holds edge.memberKind.entityKind (fold edge.memberId)

variable {tables : Tables} {roster : Roster}

theorem mem_places_of_entityRows
    (entities : tables.entities = roster.entityRows)
    {place : SqlValue × SqlValue} :
    place ∈ tables.places ↔
      (∃ group ∈ roster.groups,
          (.text EntityKind.group.name, .text (fold group.id)) = place) ∨
        ∃ user ∈ roster.users,
            (.text EntityKind.user.name, .text (fold user.id)) = place := by
  rw [places, entities, Roster.entityRows, List.map_append,
    EntityRow.map_place_ofGroups, EntityRow.map_place_ofUsers, List.mem_append,
    List.mem_map, List.mem_map]

/-- When the records have been copied, a member is stored if it has a record. -/
theorem holds_eq_knows (sound : roster.Sound)
    (entities : tables.entities = roster.entityRows) (kind : MemberKind)
    (id : String) :
    tables.holds kind.entityKind (fold id) = roster.knows kind id := by
  cases kind with
  | group =>
      rw [Bool.eq_iff_iff, holds_iff, mem_places_of_entityRows entities]
      refine Iff.trans ?_ sound.isSome_group?_iff.symm
      simp [MemberKind.entityKind, EntityKind.name]
  | user =>
      rw [Bool.eq_iff_iff, holds_iff, mem_places_of_entityRows entities]
      refine Iff.trans ?_ sound.isSome_user?_iff.symm
      simp [MemberKind.entityKind, EntityKind.name]

/-- When the records have been copied, the ends of an edge are stored if they
have records. -/
theorem holdsEnds_eq_connects (sound : roster.Sound)
    (entities : tables.entities = roster.entityRows) (edge : Membership) :
    tables.holdsEnds edge = roster.connects edge := by
  have group :
      tables.holds .group (fold edge.groupId) =
          (roster.group? edge.groupId).isSome :=
    holds_eq_knows sound entities .group edge.groupId
  have member := holds_eq_knows sound entities edge.memberKind edge.memberId
  rw [holdsEnds, Roster.connects, group, member]
  cases edge.memberKind <;> rfl

end Tables

namespace Replica

/-- Storing records that all have rows writes these rows one after the other. -/
theorem storeAll_eq_ok {α : Type} {rowOf : α → Answer EntityRow}
    (rowFor : α → EntityRow)
    (rows : ∀ record row, rowOf record = .ok row → row = rowFor record)
    {records : List α} {replica after : Replica} {stored : Nat}
    (result : (storeAll rowOf records).run replica = (.ok stored, after)) :
    stored = records.length ∧
      after.tables =
          (records.map rowFor).foldl Tables.upsertEntity replica.tables := by
  induction records generalizing replica stored with
  | nil =>
      cases result
      exact ⟨rfl, rfl⟩
  | cons record rest inductionHypothesis =>
      obtain ⟨row, between, found, next⟩ := Action.run_bind_eq_ok_iff.mp result
      simp only [Action.run_ofAnswer, Prod.mk.injEq] at found
      obtain ⟨found, rfl⟩ := found
      obtain ⟨_, written, stores, next⟩ := Action.run_bind_eq_ok_iff.mp next
      obtain ⟨count, last, stored, final⟩ := Action.run_bind_eq_ok_iff.mp next
      cases final
      obtain ⟨_, rfl⟩ := run_update_eq_ok_iff.mp stores
      obtain ⟨counted, tables⟩ := inductionHypothesis stored
      constructor
      · rw [counted, List.length_cons]
      · rw [tables, List.map_cons, List.foldl_cons, rows record row found]

/-- Records that are not there yet are appended. -/
theorem storeAll_eq_ok_of_fresh {α : Type} {rowOf : α → Answer EntityRow}
    {rowFor : α → EntityRow}
    (rows : ∀ record row, rowOf record = .ok row → row = rowFor record)
    (versions : ∀ record, (rowFor record).version = 1) {records : List α}
    {replica after : Replica} {stored : Nat}
    (distinct :
      ((replica.tables.entities ++ records.map rowFor).map
        EntityRow.place).Nodup)
    (result : (storeAll rowOf records).run replica = (.ok stored, after)) :
    stored = records.length ∧
      after.tables =
        { replica.tables with
            entities := replica.tables.entities ++ records.map rowFor } := by
  obtain ⟨counted, tables⟩ := storeAll_eq_ok rowFor rows result
  refine ⟨counted, tables.trans (Tables.foldl_upsertEntity_of_fresh ?_ ?_)⟩
  · rwa [List.map_append] at distinct
  · intro row member
    obtain ⟨record, _, rfl⟩ := List.mem_map.mp member
    exact versions record

theorem storeGroups_eq_ok {groups : List Group} {replica after : Replica}
    {stored : Nat}
    (distinct :
      ((replica.tables.entities ++ EntityRow.ofGroups groups).map
        EntityRow.place).Nodup)
    (result :
      (storeAll EntityRow.ofGroup? groups).run replica = (.ok stored, after)) :
    stored = groups.length ∧
      after.tables =
        { replica.tables with
          entities := replica.tables.entities ++ EntityRow.ofGroups groups } :=
  storeAll_eq_ok_of_fresh
    (fun _ _ found => (EntityRow.ofGroup?_eq_ok_iff.mp found).2)
    (fun _ => rfl) distinct result

theorem storeUsers_eq_ok {users : List User} {replica after : Replica}
    {stored : Nat}
    (distinct :
      ((replica.tables.entities ++ EntityRow.ofUsers users).map
        EntityRow.place).Nodup)
    (result :
      (storeAll EntityRow.ofUser? users).run replica = (.ok stored, after)) :
    stored = users.length ∧
      after.tables =
        { replica.tables with
          entities := replica.tables.entities ++ EntityRow.ofUsers users } :=
  storeAll_eq_ok_of_fresh
    (fun _ _ found => (EntityRow.ofUser?_eq_ok_iff.mp found).2)
    (fun _ => rfl) distinct result

/-- Whether an edge with ids that are not blank is stored depends on nothing but
its ends. -/
theorem run_upsertMembership_of_named {edge : Membership} {replica : Replica}
    (opened : replica.isOpen = true) (groupNamed : isBlank edge.groupId = false)
    (memberNamed : isBlank edge.memberId = false) :
    (replica.tables.holdsEnds edge = false ∧
        ∃ kind id,
          (upsertMembership edge).run replica =
            (.error (.notFound kind id), replica)) ∨
      (replica.tables.holdsEnds edge = true ∧
        (upsertMembership edge).run replica =
          (.ok ⟨⟩,
            { replica with
              tables := replica.tables.upsertEdge (.ofMembership edge)
              generation := replica.generation + 1 })) := by
  have writes : (upsertMembership edge).run replica =
      (write (Tables.connectStored edge (fold edge.groupId)
          (fold edge.memberId))).run replica := by
    rw [upsertMembership, storableKey_eq_ok_iff.mpr ⟨groupNamed, rfl⟩,
      storableKey_eq_ok_iff.mpr ⟨memberNamed, rfl⟩]
    rfl
  rw [writes, run_write_of_open opened, Tables.connectStored,
    Tables.requireEntity, Tables.requireEntity, Tables.holdsEnds]
  cases group : replica.tables.holds .group (fold edge.groupId) with
  | false => exact Or.inl ⟨rfl, _, _, rfl⟩
  | true =>
      cases member :
        replica.tables.holds edge.memberKind.entityKind
          (fold edge.memberId) with
      | false => exact Or.inl ⟨rfl, _, _, rfl⟩
      | true => exact Or.inr ⟨rfl, rfl⟩

/-- What storing an edge comes to: it is refused, or one of its ends is missing,
or it is stored. -/
theorem run_upsertMembership (edge : Membership) (replica : Replica) :
    (∃ reason,
      (upsertMembership edge).run replica =
        (.error (.accessFailure reason), replica)) ∨
      (replica.tables.holdsEnds edge = false ∧
        ∃ kind id,
          (upsertMembership edge).run replica =
            (.error (.notFound kind id), replica)) ∨
      (replica.tables.holdsEnds edge = true ∧
        (upsertMembership edge).run replica =
          (.ok ⟨⟩,
            { replica with
              tables := replica.tables.upsertEdge (.ofMembership edge)
              generation := replica.generation + 1 })) := by
  have refused : ∀ kind id, isBlank id = true →
      ∃ reason, storableKey kind id = .error (.accessFailure reason) := by
    intro kind id blank
    exact ⟨_, if_pos blank⟩
  rcases Bool.eq_false_or_eq_true (isBlank edge.groupId) with blank | groupNamed
  · obtain ⟨reason, failure⟩ := refused .group edge.groupId blank
    refine Or.inl ⟨reason, ?_⟩
    rw [upsertMembership, failure]
    rfl
  rcases Bool.eq_false_or_eq_true (isBlank edge.memberId) with
      blank | memberNamed
  · obtain ⟨reason, failure⟩ :=
      refused edge.memberKind.entityKind edge.memberId blank
    refine Or.inl ⟨reason, ?_⟩
    rw [upsertMembership, storableKey_eq_ok_iff.mpr ⟨groupNamed, rfl⟩, failure]
    rfl
  rcases Bool.eq_false_or_eq_true replica.isOpen with opened | closed
  · exact Or.inr (run_upsertMembership_of_named opened groupNamed memberNamed)
  · have failure :
      (write (Tables.connectStored edge (fold edge.groupId)
        (fold edge.memberId))).run
        replica = (.error closedStore, replica) := run_write_of_closed closed
    refine Or.inl ⟨_, Eq.trans ?_ failure⟩
    rw [upsertMembership, storableKey_eq_ok_iff.mpr ⟨groupNamed, rfl⟩,
      storableKey_eq_ok_iff.mpr ⟨memberNamed, rfl⟩]
    rfl

end Replica

end CachedDirectory
