import CachedDirectory.Live
import CachedDirectory.Proofs.Rosters

/-!
# Live searches of a roster

A live search of a roster reads all of its records of a kind within its rounds,
whatever their number. They are in the order of their folded ids already, so the
result is a part of those that the filter accepts.
-/

namespace CachedDirectory

open Text

namespace Text

variable {α : Type} {key : α → String} {items : List α}

/-- Items that are in order are left in order. -/
theorem inOrder_of_pairwise
    (sorted : items.Pairwise fun left right => key left ≤ key right) :
    inOrder key items = items := by
  unfold inOrder
  dsimp only
  rw [List.mergeSort_of_pairwise, List.map_map]
  · exact List.map_id items
  · exact List.pairwise_map.mpr (sorted.imp fun le => decide_eq_true le)

theorem perm_inOrder (key : α → String) (items : List α) :
    (inOrder key items).Perm items := by
  unfold inOrder
  refine ((List.mergeSort_perm _ _).map _).trans ?_
  rw [List.map_map]
  exact List.Perm.of_eq (List.map_id items)

theorem pairwise_inOrder (key : α → String) (items : List α) :
    (inOrder key items).Pairwise fun left right => key left ≤ key right := by
  have sorted : ((items.map fun item => (key item, item)).mergeSort
      fun left right => decide (left.1 ≤ right.1)).Pairwise
        fun left right => decide (left.1 ≤ right.1) = true := by
    apply List.pairwise_mergeSort
    · simp only [decide_eq_true_eq]
      exact fun _ _ _ before after => Std.le_trans before after
    · simp only [Bool.or_eq_true, decide_eq_true_eq]
      exact fun _ _ => Std.le_total
  have keyed : ∀ pair ∈ (items.map fun item => (key item, item)).mergeSort
      fun left right => decide (left.1 ≤ right.1), pair.1 = key pair.2 := by
    intro pair listed
    obtain ⟨item, _, rfl⟩ :=
      List.mem_map.mp ((List.mergeSort_perm _ _).mem_iff.mp listed)
    rfl
  unfold inOrder
  refine List.pairwise_map.mpr (List.Pairwise.imp_of_mem ?_ sorted)
  intro left right leftListed rightListed le
  rw [decide_eq_true_iff, keyed left leftListed, keyed right rightListed] at le
  exact le

end Text

namespace Roster

variable {roster : Roster} {scope : EntityKind}

/-- The records of a kind that is stored, as entities. -/
def records (roster : Roster) : EntityKind → List Entity
  | .group => roster.groups.map .group
  | _ => roster.users.map .user

theorem length_records_le (roster : Roster) (scope : EntityKind) :
    (roster.records scope).length ≤ roster.size := by
  have groups : roster.groups.length = roster.groupRecords.size := by
    rw [Roster.groups, List.length_map, Register.toList, List.length_map,
      Register.size]
  have users : roster.users.length = roster.userRecords.size := by
    rw [Roster.users, List.length_map, Register.toList, List.length_map,
      Register.size]
  cases scope with
  | group =>
      show (roster.groups.map Entity.group).length ≤ _
      rw [List.length_map, groups, size]
      omega
  | _ =>
      show (roster.users.map Entity.user).length ≤ _
      rw [List.length_map, users, size]
      omega

theorem run_scanPage (granted : roster.isDenied = false) (scope : EntityKind)
    (position : Nat) :
    (Live.scanPage scope position).run roster =
      (.ok (((roster.records scope).drop position).take Live.scanLength),
          roster) := by
  have answered {α : Type} (find : Roster → α) :
      (Authority.ask (authorized find)).run roster =
          (.ok (find roster), roster) := by
    rw [run_ask_authorized, granted]
    rfl
  cases scope with
  | group =>
      have found :=
        answered fun roster => roster.groupPage position Live.scanLength
      rw [groupPage_eq] at found
      refine (Action.run_bind_ok found).trans ?_
      rw [Action.run_pure, List.map_take, List.map_drop]
      rfl
  | _ =>
      have found :=
        answered fun roster => roster.userPage position Live.scanLength
      rw [userPage_eq] at found
      refine (Action.run_bind_ok found).trans ?_
      rw [Action.run_pure, List.map_take, List.map_drop]
      rfl

/-- A scan that has read the first records reads all of them in enough
rounds. -/
theorem scan_eq (granted : roster.isDenied = false) {rounds : Nat}
    {known rest : List Entity} (listed : roster.records scope = known ++ rest)
    (enough : rest.length < rounds) :
    Live.scan scope rounds known roster =
        (some (.ok (roster.records scope)), roster) := by
  induction rounds generalizing known rest with
  | zero => exact absurd enough (Nat.not_lt_zero _)
  | succ rounds inductionHypothesis =>
      have page : (Live.scanPage scope known.length).run roster =
          (.ok (rest.take Live.scanLength), roster) := by
        rw [run_scanPage granted, listed, List.drop_left]
      rw [Live.scan, page]
      dsimp only
      split
      · rename_i short
        rw [List.length_take] at short
        rw [List.take_of_length_le (by omega), listed]
      · rename_i full
        have positive : 0 < Live.scanLength := by decide
        rw [List.length_take] at full
        apply inductionHypothesis
        · rw [List.append_assoc, List.take_append_drop, listed]
        · rw [List.length_drop]
          omega

end Roster

end CachedDirectory
