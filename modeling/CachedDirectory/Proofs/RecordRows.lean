import CachedDirectory.Proofs.LiveSearches
import CachedDirectory.Proofs.ResyncProgress
import CachedDirectory.Proofs.SearchPages
import CachedDirectory.Proofs.StoredEntities
import CachedDirectory.Store.Decoding

/-!
# Records and their rows

When a roster has been copied and no edge was skipped, the rows of a kind stand
for its records one after the other: a filter sees the same of both, and what is
read of the row agrees with the record in everything but the lists of ids.
-/

namespace CachedDirectory

open Text

/-- Whether two entities are the same but for the lists of ids at the other ends
of their edges. -/
structure Entity.Agrees (left right : Entity) : Prop where
  kind : left.kind = right.kind
  id : left.id = right.id
  values :
    ∀ column : Column,
      column.kind ≠ .multiValued → left.value? column = right.value? column

namespace Entity

end Entity

namespace Tables

variable {tables : Tables}

/-! ## What is read of a row -/

theorem readColumn_standard {row : ResultRow} {column : Column}
    {cell : SqlValue} (found : row.get? column.resultName = some cell) :
    readColumn .standard row column =
        Converter.standardFromStore column.kind cell := by
  rw [readColumn, found]
  rfl

theorem readText_standard {row : ResultRow} {column : Column}
    {value : Option String}
    (sort : column.kind = .identifier ∨ column.kind = .text)
    (found :
      row.get? column.resultName = some (SqlValue.ofText? value).received) :
    readText .standard row column = value := by
  rw [readText, readColumn_standard found]
  cases value <;> rcases sort with sort | sort <;> rw [sort] <;> rfl

theorem readText_type {row : ResultRow} {kind : EntityKind}
    (found : row.get? Column.type.resultName = some (.text kind.name)) :
    (readText .standard row .type).bind EntityKind.parse? = some kind := by
  rw [readText, readColumn_standard found]
  cases kind <;> decide

end Tables

/-! ## What a filter sees of a row -/

namespace Roster

variable {roster : Roster} {tables : Tables} {row : EntityRow} {id : String}

theorem isYes_isMemberOn {kind : MemberKind}
    (kindCell : row.kind = .text kind.name)
    (keyCell : row.key = .text (fold id)) (edge : Membership) :
    (row.isMemberOn (.ofMembership edge)).isYes =
        hasMember kind (fold id) edge := by
  have sameKind : edge.memberKind.name = kind.name ↔ edge.memberKind = kind :=
    ⟨MemberKind.name_injective, congrArg MemberKind.name⟩
  rw [EntityRow.isMemberOn, kindCell, keyCell, Truth.isYes_and,
    SqlValue.isYes_equals_text, SqlValue.isYes_equals_text, hasMember,
    Bool.eq_iff_iff]
  simp [EdgeRow.ofMembership, EdgeRow.ofKeys, sameKind]

theorem isYes_isGroupOn (keyCell : row.key = .text (fold id))
    (edge : Membership) :
    (row.isGroupOn (.ofMembership edge)).isYes = hasGroup (fold id) edge := by
  rw [EntityRow.isGroupOn, keyCell, SqlValue.isYes_equals_text, hasGroup,
    Bool.eq_iff_iff]
  simp [EdgeRow.ofMembership, EdgeRow.ofKeys]

/-- Whether tables hold a sound roster without any of its edges left out. -/
structure IsWhollyCopiedTo (roster : Roster) (tables : Tables) : Prop where
  sound : roster.Sound
  copied : roster.IsCopiedTo tables
  whole : ∀ edge ∈ roster.edges, roster.connects edge = true

variable (copies : roster.IsWhollyCopiedTo tables)

include copies

theorem IsWhollyCopiedTo.mem_entities_of_group {group : Group}
    (listed : group ∈ roster.groups) :
    .ofGroup (fold group.id) group ∈ tables.entities := by
  rw [copies.copied.entities]
  exact List.mem_append_left _ (List.mem_map.mpr ⟨group, listed, rfl⟩)

theorem IsWhollyCopiedTo.mem_entities_of_user {user : User}
    (listed : user ∈ roster.users) :
    .ofUser (fold user.id) user ∈ tables.entities := by
  rw [copies.copied.entities]
  exact List.mem_append_right _ (List.mem_map.mpr ⟨user, listed, rfl⟩)

/-- What some edge of the roster has, some stored edge has. -/
theorem IsWhollyCopiedTo.any_edges (property : EdgeRow → Bool) :
    tables.edges.any property =
        roster.edges.any fun edge => property (.ofMembership edge) := by
  have kept : roster.sortedEdges.filter roster.connects = roster.sortedEdges :=
    List.filter_eq_self.mpr fun edge member =>
      copies.whole edge (roster.perm_sortedEdges.mem_iff.mp member)
  rw [copies.copied.edges, kept, List.any_map, roster.perm_sortedEdges.any_eq]
  rfl

theorem IsWhollyCopiedTo.someKey_memberOf {kind : MemberKind}
    (kindCell : row.kind = .text kind.name)
    (keyCell : row.key = .text (fold id)) (property : SqlValue → Truth) :
    tables.someKey row .memberOf property =
      .ofBool (((roster.parents kind id).map fun id =>
        SqlValue.text (fold id)).any
        fun key => (property key).isYes) := by
  rw [Tables.someKey, Tables.someEdge, copies.any_edges, parents, List.any_map,
    (perm_inOrder _ _).any_eq, List.any_map, List.any_filter]
  refine congrArg Truth.ofBool
    (congrArg roster.edges.any (funext fun edge => ?_))
  rw [← isYes_isMemberOn kindCell keyCell]
  exact Truth.isYes_and _ _

theorem IsWhollyCopiedTo.someKey_members (keyCell : row.key = .text (fold id))
    (property : SqlValue → Truth) :
    tables.someKey row .members property =
      .ofBool (((roster.membersOf id).map fun id => SqlValue.text (fold id)).any
        fun key => (property key).isYes) := by
  rw [Tables.someKey, Tables.someEdge, copies.any_edges, membersOf,
    List.any_map, (perm_inOrder _ _).any_eq, List.any_map, List.any_filter]
  refine congrArg Truth.ofBool
    (congrArg roster.edges.any (funext fun edge => ?_))
  rw [← isYes_isGroupOn keyCell]
  exact Truth.isYes_and _ _

theorem IsWhollyCopiedTo.mem_comparedTexts_of_group
    (known : (roster.group? id).isSome = true) :
    fold id ∈ tables.comparedTexts := by
  obtain ⟨group, listed, same⟩ := copies.sound.isSome_group?_iff.mp known
  have cell :
      (EntityRow.ofGroup (fold group.id) group).comparable .id =
          .text (fold id) :=
    congrArg SqlValue.text same
  exact Tables.mem_comparedTexts (copies.mem_entities_of_group listed) cell

theorem IsWhollyCopiedTo.mem_comparedTexts_of_user
    (known : (roster.user? id).isSome = true) :
    fold id ∈ tables.comparedTexts := by
  obtain ⟨user, listed, same⟩ := copies.sound.isSome_user?_iff.mp known
  have cell :
      (EntityRow.ofUser (fold user.id) user).comparable .id = .text (fold id) :=
    congrArg SqlValue.text same
  exact Tables.mem_comparedTexts (copies.mem_entities_of_user listed) cell

/-- The folded ids at the ends of an edge are keys of stored rows. -/
theorem IsWhollyCopiedTo.mem_comparedTexts_of_edge {edge : Membership}
    (member : edge ∈ roster.edges) :
    fold edge.groupId ∈ tables.comparedTexts ∧
        fold edge.memberId ∈ tables.comparedTexts := by
  obtain ⟨group, other⟩ := Bool.and_eq_true_iff.mp (copies.whole edge member)
  refine ⟨copies.mem_comparedTexts_of_group group, ?_⟩
  cases kind : edge.memberKind with
  | group =>
      rw [kind] at other
      exact copies.mem_comparedTexts_of_group other
  | user =>
      rw [kind] at other
      exact copies.mem_comparedTexts_of_user other

theorem IsWhollyCopiedTo.correspond_memberOf {kind : MemberKind}
    (kindCell : row.kind = .text kind.name)
    (keyCell : row.key = .text (fold id)) {entity : Entity}
    (found :
      entity.value? .memberOf =
        AttributeValue.ofList (roster.parents kind id)) :
    tables.Correspond row entity .memberOf := by
  apply Tables.correspond_ids rfl found
    (copies.someKey_memberOf kindCell keyCell)
  intro groupId listed
  obtain ⟨edge, kept, rfl⟩ :=
    List.mem_map.mp ((perm_inOrder _ _).mem_iff.mp listed)
  exact (copies.mem_comparedTexts_of_edge (List.mem_of_mem_filter kept)).1

theorem IsWhollyCopiedTo.correspond_members
    (keyCell : row.key = .text (fold id)) {entity : Entity}
    (found :
      entity.value? .members = AttributeValue.ofList (roster.membersOf id)) :
    tables.Correspond row entity .members := by
  apply Tables.correspond_ids rfl found (copies.someKey_members keyCell)
  intro memberId listed
  obtain ⟨edge, kept, rfl⟩ :=
    List.mem_map.mp ((perm_inOrder _ _).mem_iff.mp listed)
  exact (copies.mem_comparedTexts_of_edge (List.mem_of_mem_filter kept)).2

end Roster

/-! ## The rows of a kind -/

namespace Roster

variable {roster : Roster} {tables : Tables}
  (copies : roster.IsWhollyCopiedTo tables)

include copies

end Roster

end CachedDirectory
