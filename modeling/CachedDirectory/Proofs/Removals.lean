import CachedDirectory.Proofs.GroupClosures
import CachedDirectory.Proofs.RecordWrites

/-!
# Removals

A replica removes a group or a user with the edges at it, all groups or all
users, or an edge. What is stored under the same id as an entity of the other
kind stays, and so do the edges of that one.
-/

namespace CachedDirectory

open Text

/-- A call that removes what is stored. -/
inductive Removal where
  | group (id : String)
  | allGroups
  | user (id : String)
  | allUsers
  | membership (edge : Membership)
deriving DecidableEq, Repr

namespace Removal

def call : Removal → SyncCall
  | group id => .dropGroup id
  | allGroups => .dropAllGroups
  | user id => .dropUser id
  | allUsers => .dropAllUsers
  | membership edge => .dropMembership edge

/-- Whether a removal names the entity in a row: that of the kind under the
folded id, or each of the kind. -/
def namesEntity : Removal → EntityRow → Bool
  | group id, row =>
      row.kind = .text EntityKind.group.name ∧ row.key = .text (fold id)
  | allGroups, row => row.kind = .text EntityKind.group.name
  | user id, row =>
      row.kind = .text EntityKind.user.name ∧ row.key = .text (fold id)
  | allUsers, row => row.kind = .text EntityKind.user.name
  | membership _, _ => false

/-- Whether a removal names an edge, or an entity at one of its ends. All edges
begin at groups. -/
def namesEdge : Removal → EdgeRow → Bool
  | group id, edge =>
      edge.groupKey = .text (fold id) ∨
        edge.memberKind = .text MemberKind.group.name ∧
          edge.memberKey = .text (fold id)
  | allGroups, _ => true
  | user id, edge =>
      edge.memberKind = .text MemberKind.user.name ∧
        edge.memberKey = .text (fold id)
  | allUsers, edge => edge.memberKind = .text MemberKind.user.name
  | membership dropped, edge => edge = .ofMembership dropped

/-- What a removal gives when so many entities were removed. -/
def reply (removed : Nat) : Removal → SyncReply
  | allGroups | allUsers => .count removed
  | group _ | user _ | membership _ => .done

/-- What a removal does to the tables. -/
def change : Removal → Tables → Tables
  | group id, tables => tables.dropGroup (.text (fold id))
  | allGroups, tables => tables.dropGroups
  | user id, tables => tables.dropUser (.text (fold id))
  | allUsers, tables => tables.dropUsers
  | membership edge, tables => tables.dropEdge (.ofMembership edge)

end Removal

namespace Tables

/-- The tables without the entities and the edges that a removal names. -/
def without (tables : Tables) (removal : Removal) : Tables :=
  { tables with
    entities := tables.entities.filter fun row => !removal.namesEntity row
    edges := tables.edges.filter fun edge => !removal.namesEdge edge }

variable {tables smaller : Tables} {removal : Removal}

theorem eq_without
    (entities :
      smaller.entities =
        tables.entities.filter fun row => !removal.namesEntity row)
    (edges :
      smaller.edges = tables.edges.filter fun edge => !removal.namesEdge edge)
    (marks : smaller.marks = tables.marks) :
    smaller = tables.without removal := by
  rw [without, ← entities, ← edges, ← marks]

end Tables

namespace Removal

variable {tables : Tables} {replica : Replica}

/-- A removal takes away exactly what it names. -/
theorem change_eq_without (removal : Removal) (tables : Tables) :
    removal.change tables = tables.without removal := by
  cases removal with
  | group id =>
      refine Tables.eq_without ?_ ?_ rfl
      · refine (Tables.entities_dropGroup tables (fold id)).trans
          (List.filter_congr ?_)
        simp [namesEntity, EntityRow.place]
      · refine (Tables.edges_dropGroup tables (fold id)).trans
          (List.filter_congr fun edge _ => ?_)
        have name : EntityKind.group.name = MemberKind.group.name := rfl
        simp [namesEdge, EdgeRow.memberPlace, EdgeRow.groupPlace, name,
          Bool.and_comm]
  | allGroups =>
      refine Tables.eq_without ?_ ?_ rfl
      · exact Tables.entities_dropGroups tables
      · exact (List.filter_false tables.edges).symm
  | user id =>
      refine Tables.eq_without ?_ ?_ rfl
      · refine (Tables.entities_dropUser tables (fold id)).trans
          (List.filter_congr ?_)
        simp [namesEntity, EntityRow.place]
      · refine (Tables.edges_dropUser tables (fold id)).trans
          (List.filter_congr fun edge _ => ?_)
        have name : EntityKind.user.name = MemberKind.user.name := rfl
        simp [namesEdge, EdgeRow.memberPlace, name]
  | allUsers =>
      refine Tables.eq_without ?_ ?_ rfl
      · exact Tables.entities_dropUsers tables
      · exact Tables.edges_dropUsers tables
  | membership edge =>
      refine Tables.eq_without ?_ ?_ rfl
      · exact (List.filter_true tables.entities).symm
      · exact List.filter_congr fun other _ =>
          congrArg _ (Tables.isYes_isEdge edge other)

theorem length_sub_without (removal : Removal) (tables : Tables) :
    tables.entities.length - (tables.without removal).entities.length =
      tables.entities.countP removal.namesEntity := by
  have total := tables.entities.length_eq_countP_add_countP removal.namesEntity
  have kept : (tables.without removal).entities.length =
      tables.entities.countP fun row =>
          decide ¬removal.namesEntity row = true := by
    rw [List.countP_eq_length_filter]
    simp [Tables.without]
  omega

section

variable {α β : Type} {reply : β → SyncReply} {value : Tables → β}
  {change : Tables → Tables}

theorem run_withReplica_of_open (opened : replica.isOpen = true)
    (authority : α) :
    SyncCall.withReplica reply
        (Replica.write fun tables => .ok (value tables, change tables))
          ⟨replica, authority⟩ =
      (some (.ok (reply (value replica.tables))),
        ⟨{ replica with
            tables := change replica.tables
            generation := replica.generation + 1 }, authority⟩) := by
  rw [SyncCall.withReplica, SyncCall.once,
    Session.run_onReplica (Replica.run_write_of_open opened)]
  rfl

theorem run_withReplica_of_closed (closed : replica.isOpen = false)
    (authority : α) :
    SyncCall.withReplica reply
        (Replica.write fun tables => .ok (value tables, change tables))
          ⟨replica, authority⟩ =
      (some (.error Replica.closedStore), ⟨replica, authority⟩) := by
  rw [SyncCall.withReplica, SyncCall.once,
    Session.run_onReplica (Replica.run_write_of_closed closed)]
  rfl

end

variable {α : Type}

theorem run_of_open [Authority α] (opened : replica.isOpen = true)
    (authority : α) (removal : Removal) :
    removal.call.run ⟨replica, authority⟩ =
      (some (.ok (removal.reply
        (replica.tables.entities.countP removal.namesEntity))),
        ⟨{ replica with
            tables := replica.tables.without removal
            generation := replica.generation + 1 }, authority⟩) := by
  rw [← length_sub_without, ← change_eq_without]
  cases removal <;> exact run_withReplica_of_open opened authority

theorem run_of_closed [Authority α] (closed : replica.isOpen = false)
    (authority : α) (removal : Removal) :
    removal.call.run ⟨replica, authority⟩ =
      (some (.error Replica.closedStore), ⟨replica, authority⟩) := by
  cases removal <;> exact run_withReplica_of_closed closed authority

/-- At most one row is at the place that the removal of a group or of a user
names. -/
theorem countP_place_le_one (sound : tables.Sound) (kind key : SqlValue) :
    (tables.entities.countP fun row =>
        decide (row.kind = kind ∧ row.key = key)) ≤ 1 := by
  have once := Tables.length_rowsAt_le_one sound.nodup_places (kind, key)
  rw [List.countP_eq_length_filter]
  simpa [Tables.rowsAt, EntityRow.place] using once

theorem countP_edge_le_one (sound : tables.Sound) (edge : Membership) :
    tables.edges.countP (membership edge).namesEdge ≤ 1 := by
  have once :=
    List.nodup_iff_count_le_one.mp sound.nodup_edges (.ofMembership edge)
  have same : (fun other : EdgeRow => other == .ofMembership edge) =
      (membership edge).namesEdge := by
    funext other
    rw [Bool.eq_iff_iff]
    simp [namesEdge]
  rwa [List.count, same] at once

/-- Whether the removal of a group spares the users and their edges, but for
those to the group, and the removal of a user the groups and their edges,
whatever ids these have. -/
structure SparesNamesakes (tables : Tables) (id : String) : Prop where
  users : ∀ row ∈ tables.entities, row.kind = .text EntityKind.user.name →
    row ∈ (tables.without (group id)).entities
  userEdges :
    ∀ edge ∈ tables.edges, edge.memberKind = .text MemberKind.user.name →
    edge.groupKey ≠ .text (fold id) → edge ∈ (tables.without (group id)).edges
  groups : ∀ row ∈ tables.entities, row.kind = .text EntityKind.group.name →
    row ∈ (tables.without (user id)).entities
  groupEdges :
    ∀ edge ∈ tables.edges, edge.memberKind = .text MemberKind.group.name →
    edge ∈ (tables.without (user id)).edges

theorem sparesNamesakes (tables : Tables) (id : String) :
    SparesNamesakes tables id := by
  have apart : EntityKind.user.name ≠ EntityKind.group.name := by decide
  have apartMembers : MemberKind.user.name ≠ MemberKind.group.name := apart
  constructor
  · intro row member kind
    exact List.mem_filter.mpr ⟨member, by simp [namesEntity, kind, apart]⟩
  · intro edge member kind elsewhere
    exact List.mem_filter.mpr
      ⟨member, by simp [namesEdge, kind, apartMembers, elsewhere]⟩
  · intro row member kind
    exact List.mem_filter.mpr ⟨member, by simp [namesEntity, kind, apart.symm]⟩
  · intro edge member kind
    exact List.mem_filter.mpr
      ⟨member, by simp [namesEdge, kind, apartMembers.symm]⟩

/-- A removal takes away the entities and the edges that it names and nothing
else: the others keep their order, and the marks stay, as does what the replica
remembers. A group, a user or an edge is named by at most one row. Over a closed
store a removal fails and does nothing. -/
theorem removes_exactly [Authority α] (authority : α)
    (reached : replica.Reached) (removal : Removal) :
    (replica.isOpen = true →
      removal.call.run ⟨replica, authority⟩ =
        (some (.ok (removal.reply
          (replica.tables.entities.countP removal.namesEntity))),
          ⟨{ replica with
              tables := replica.tables.without removal
              generation := replica.generation + 1 }, authority⟩)) ∧
    (replica.isOpen = false →
      removal.call.run ⟨replica, authority⟩ =
        (some (.error Replica.closedStore), ⟨replica, authority⟩)) ∧
    (replica.tables.without removal).resetPending =
      replica.tables.resetPending ∧
    (∀ id, replica.tables.entities.countP (group id).namesEntity ≤ 1 ∧
      replica.tables.entities.countP (user id).namesEntity ≤ 1) ∧
    (∀ edge, replica.tables.edges.countP (membership edge).namesEdge ≤ 1) ∧
    ∀ id, SparesNamesakes replica.tables id := by
  have sound := reached.sound
  refine ⟨?_, ?_, ?_, ?_, countP_edge_le_one sound,
    sparesNamesakes replica.tables⟩
  · exact fun opened => run_of_open opened authority removal
  · exact fun closed => run_of_closed closed authority removal
  · exact Tables.resetPending_congr rfl
  · intro id
    exact ⟨countP_place_le_one sound _ _, countP_place_le_one sound _ _⟩

/-- A roster with a group and a user of one id. -/
def namesakes : Roster :=
  RosterEdit.applyAll {}
    [.putGroup ⟨"Same", none, [], []⟩, .putGroup ⟨"Other", none, [], []⟩,
      .putUser ⟨"same", none, none, none, none, true, []⟩]

/-- A replica that has copied it, with both in another group and one in the
other. -/
def copied : Replica :=
  Replica.afterCalls namesakes Replica.unfilled
    [.upsertAllGroups, .upsertAllUsers,
      .upsertMembership ⟨"Other", .user, "same"⟩,
      .upsertMembership ⟨"Other", .group, "same"⟩,
        .upsertMembership ⟨"Same", .user, "same"⟩]

theorem removes_exactly_copied :
    copied.tables.entities.length = 3 ∧ copied.tables.edges.length = 3 ∧
      let after := ((group "SAME").call.run ⟨copied, namesakes⟩).2.replica
      after.tables = copied.tables.without (group "SAME") ∧
        after.tables.entities.map (fun row => (row.kind, row.key)) =
            [(.text "GROUP", .text "other"), (.text "USER", .text "same")] ∧
          after.tables.edges =
              [⟨.text "other", .text "USER", .text "same"⟩] := by
  have reached : copied.Reached :=
    Replica.reached_unfilled.afterCalls namesakes _
  have opened : copied.isOpen = true := by decide +kernel
  have ran := (removes_exactly namesakes reached (group "SAME")).1 opened
  rw [ran]
  exact ⟨by decide +kernel, by decide +kernel,
    rfl, by decide +kernel, by decide +kernel⟩

end Removal

end CachedDirectory
