import CachedDirectory.Proofs.SearchPages
import CachedDirectory.Proofs.StoredEntities

/-!
# The order of keys

Cells are in a total order, and so are edges, whose three cells are compared one
after the other. The rows of one kind in a sound store have different keys, so
sorting them by their keys leaves no choice.
-/

namespace CachedDirectory

namespace SqlValue

theorem le_total (left right : SqlValue) :
    (left.le right || right.le left) = true := by
  cases left <;> cases right <;> simp [le]
  case integer.integer left right => exact Int.le_total left right
  case text.text => exact Std.le_total
  case blob.blob => exact Std.le_total

theorem le_trans {first second third : SqlValue}
    (before : first.le second = true) (after : second.le third = true) :
    first.le third = true := by
  cases first <;> cases second <;> cases third <;> simp_all [le]
  case integer.integer.integer => exact Int.le_trans before after
  case text.text.text => exact Std.le_trans before after
  case blob.blob.blob => exact Std.le_trans before after

theorem le_antisymm {left right : SqlValue} (before : left.le right = true)
    (after : right.le left = true) : left = right := by
  cases left <;> cases right <;> simp_all [le]
  case integer.integer => exact Int.le_antisymm before after
  case text.text => exact Std.le_antisymm before after
  case blob.blob => exact Std.le_antisymm before after

/-- Whether a cell comes before another one. -/
def Before (left right : SqlValue) : Prop :=
  left.le right = true ∧ left ≠ right

theorem Before.trans {first second third : SqlValue}
    (before : first.Before second) (after : second.Before third) :
    first.Before third := by
  refine ⟨le_trans before.1 after.1, ?_⟩
  rintro rfl
  exact before.2 (le_antisymm before.1 after.1)

/-- Among texts a cell exceeds those before it. -/
theorem isYes_exceeds_iff {left right : SqlValue} {smaller larger : String}
    (leftText : left = .text smaller) (rightText : right = .text larger) :
    (right.exceeds left).isYes = true ↔ left.Before right := by
  rw [Before, leftText, rightText, text_exceeds_text, Truth.isYes_ofBool,
    text_le_text, Bool.not_eq_true', decide_eq_false_iff_not, String.not_le,
    decide_eq_true_iff, Ne, SqlValue.text.injEq]
  constructor
  · intro less
    refine ⟨Std.le_of_lt less, ?_⟩
    rintro rfl
    exact String.lt_irrefl smaller less
  · rintro ⟨le, different⟩
    exact Std.lt_of_le_of_ne le different

end SqlValue

namespace EdgeRow

/-- The order of edges, with the comparison of each cell spelled out. -/
theorem le_iff {left right : EdgeRow} :
    left.le right = true ↔
      (left.groupKey.le right.groupKey = true ∧
        left.groupKey ≠ right.groupKey) ∨
        left.groupKey = right.groupKey ∧
          ((left.memberKind.le right.memberKind = true ∧
            left.memberKind ≠ right.memberKind) ∨
            left.memberKind = right.memberKind ∧
                left.memberKey.le right.memberKey = true) := by
  unfold le
  by_cases group : left.groupKey = right.groupKey
  · by_cases kind : left.memberKind = right.memberKind
    · simp [group, kind]
    · simp [group, kind]
  · simp [group]

theorem le_total (left right : EdgeRow) :
    (left.le right || right.le left) = true := by
  have groups := SqlValue.le_total left.groupKey right.groupKey
  have kinds := SqlValue.le_total left.memberKind right.memberKind
  have members := SqlValue.le_total left.memberKey right.memberKey
  rw [Bool.or_eq_true] at groups kinds members ⊢
  rw [le_iff, le_iff]
  by_cases group : left.groupKey = right.groupKey
  · by_cases kind : left.memberKind = right.memberKind
    · exact members.imp (fun le => Or.inr ⟨group, Or.inr ⟨kind, le⟩⟩)
        fun le => Or.inr ⟨group.symm, Or.inr ⟨kind.symm, le⟩⟩
    · exact kinds.imp (fun le => Or.inr ⟨group, Or.inl ⟨le, kind⟩⟩)
        fun le => Or.inr ⟨group.symm, Or.inl ⟨le, Ne.symm kind⟩⟩
  · exact groups.imp (fun le => Or.inl ⟨le, group⟩) fun le =>
      Or.inl ⟨le, Ne.symm group⟩

/-- Cells that differ and are in order stay so when another one comes after. -/
theorem ne_of_le_of_le {first second third : SqlValue}
    (before : first.le second = true) (different : first ≠ second)
    (after : second.le third = true) : first ≠ third := by
  rintro rfl
  exact different (SqlValue.le_antisymm before after)

theorem le_trans {first second third : EdgeRow}
    (before : first.le second = true) (after : second.le third = true) :
    first.le third = true := by
  rw [le_iff] at before after ⊢
  rcases before with ⟨groupLe, group⟩ | ⟨group, before⟩
  · left
    rcases after with ⟨groupLe', _⟩ | ⟨group', _⟩
    · exact ⟨SqlValue.le_trans groupLe groupLe',
        ne_of_le_of_le groupLe group groupLe'⟩
    · exact ⟨group' ▸ groupLe, group' ▸ group⟩
  · rw [group]
    rcases after with ⟨groupLe', group'⟩ | ⟨group', after⟩
    · exact Or.inl ⟨groupLe', group'⟩
    · refine Or.inr ⟨group', ?_⟩
      rcases before with ⟨kindLe, kind⟩ | ⟨kind, memberLe⟩
      · left
        rcases after with ⟨kindLe', _⟩ | ⟨kind', _⟩
        · exact ⟨SqlValue.le_trans kindLe kindLe',
            ne_of_le_of_le kindLe kind kindLe'⟩
        · exact ⟨kind' ▸ kindLe, kind' ▸ kind⟩
      · rw [kind]
        rcases after with ⟨kindLe', kind'⟩ | ⟨kind', memberLe'⟩
        · exact Or.inl ⟨kindLe', kind'⟩
        · exact Or.inr ⟨kind', SqlValue.le_trans memberLe memberLe'⟩

theorem le_antisymm {left right : EdgeRow} (before : left.le right = true)
    (after : right.le left = true) : left = right := by
  rcases le_iff.mp before with ⟨groupLe, group⟩ | ⟨group, before⟩
  · rcases le_iff.mp after with ⟨groupLe', _⟩ | ⟨group', _⟩
    · exact absurd (SqlValue.le_antisymm groupLe groupLe') group
    · exact absurd group'.symm group
  · rcases le_iff.mp after with ⟨_, group'⟩ | ⟨_, after⟩
    · exact absurd group.symm group'
    · rcases before with ⟨kindLe, kind⟩ | ⟨kind, memberLe⟩
      · rcases after with ⟨kindLe', _⟩ | ⟨kind', _⟩
        · exact absurd (SqlValue.le_antisymm kindLe kindLe') kind
        · exact absurd kind'.symm kind
      · rcases after with ⟨_, kind'⟩ | ⟨_, memberLe'⟩
        · exact absurd kind.symm kind'
        · have member := SqlValue.le_antisymm memberLe memberLe'
          rcases left with ⟨_, _, _⟩
          cases group
          cases kind
          cases member
          rfl

/-- Whether an edge comes before another one. -/
def Before (left right : EdgeRow) : Prop :=
  left.le right = true ∧ left ≠ right

theorem Before.trans {first second third : EdgeRow}
    (before : first.Before second) (after : second.Before third) :
    first.Before third := by
  refine ⟨le_trans before.1 after.1, ?_⟩
  rintro rfl
  exact before.2 (le_antisymm before.1 after.1)

/-- Edges are compared cell by cell. -/
theorem before_iff {left right : EdgeRow} :
    left.Before right ↔
      left.groupKey.Before right.groupKey ∨
        left.groupKey = right.groupKey ∧
          (left.memberKind.Before right.memberKind ∨
            left.memberKind = right.memberKind ∧
                left.memberKey.Before right.memberKey) := by
  rcases left with ⟨group, kind, member⟩
  rcases right with ⟨otherGroup, otherKind, otherMember⟩
  rw [Before, le_iff]
  simp only [SqlValue.Before, ne_eq, EdgeRow.mk.injEq]
  constructor
  · rintro ⟨group | ⟨rfl, kind | ⟨rfl, le⟩⟩, different⟩
    · exact Or.inl group
    · exact Or.inr ⟨rfl, Or.inl kind⟩
    · exact Or.inr ⟨rfl,
        Or.inr ⟨rfl, le, fun same => different ⟨rfl, rfl, same⟩⟩⟩
  · rintro (group | ⟨rfl, kind | ⟨rfl, le, different⟩⟩)
    · exact ⟨Or.inl group, fun same => group.2 same.1⟩
    · exact ⟨Or.inr ⟨rfl, Or.inl kind⟩, fun same => kind.2 same.2.1⟩
    · exact ⟨Or.inr ⟨rfl, Or.inr ⟨rfl, le⟩⟩, fun same => different same.2.2⟩

end EdgeRow

namespace Tables

variable {tables : Tables}

theorem keyBefore_of_le {left right : EntityRow} {smaller larger : String}
    (leftKey : left.key = .text smaller) (rightKey : right.key = .text larger)
    (le : left.key.le right.key = true) (different : left.key ≠ right.key) :
    KeyBefore left right := by
  refine ⟨smaller, larger, leftKey, rightKey, ?_⟩
  rw [leftKey, rightKey, SqlValue.text_le_text, decide_eq_true_iff] at le
  refine Std.lt_of_le_of_ne le ?_
  rintro rfl
  exact different (leftKey.trans rightKey.symm)

/-- Rows of one kind are sorted by their keys, no two of which are equal. -/
theorem Sound.pairwise_mergeSort (sound : tables.Sound) {rows : List EntityRow}
    {kind : SqlValue} (stored : rows.Sublist tables.entities)
    (sameKind : ∀ row ∈ rows, row.kind = kind) :
    (rows.mergeSort fun left right => left.key.le right.key).Pairwise
        KeyBefore := by
  have perm := List.mergeSort_perm rows fun left right => left.key.le right.key
  have ordered :
      (rows.mergeSort fun left right => left.key.le right.key).Pairwise
        fun left right => left.key.le right.key = true := by
    apply List.pairwise_mergeSort
    · exact fun _ _ _ before after => SqlValue.le_trans before after
    · exact fun left right => SqlValue.le_total left.key right.key
  have distinct :
      (rows.mergeSort fun left right => left.key.le right.key).Pairwise
        fun left right => left.place ≠ right.place := by
    refine List.pairwise_map.mp ?_
    exact (perm.map EntityRow.place).nodup_iff.mpr
      (sound.nodup_places.sublist (stored.map _))
  have keyed :
      ∀ row ∈ rows, ∃ id, row.id = .text id ∧ row.key = .text (Text.fold id) :=
    fun row member => (sound.isRecord row (stored.subset member)).exists_id
  refine List.Pairwise.imp_of_mem ?_ (ordered.and distinct)
  rintro left right leftMember rightMember ⟨le, different⟩
  have leftStored := perm.mem_iff.mp leftMember
  have rightStored := perm.mem_iff.mp rightMember
  obtain ⟨_, _, leftKey⟩ := keyed left leftStored
  obtain ⟨_, _, rightKey⟩ := keyed right rightStored
  refine keyBefore_of_le leftKey rightKey le fun same => different ?_
  exact Prod.ext
    ((sameKind left leftStored).trans (sameKind right rightStored).symm) same

end Tables

end CachedDirectory
