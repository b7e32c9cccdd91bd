import CachedDirectory.Proofs.Rebuilding

/-!
# Pending resets

As long as a resynchronization has not succeeded, a reset stays pending: records
and edges are copied without touching the marks, and the mark that opens the
store is set last. A replica that does not wait for a reset is left as it is.
-/

namespace CachedDirectory

open Relation

namespace Tables

variable {tables other : Tables}

@[simp]
theorem marks_upsertEntity (tables : Tables) (row : EntityRow) :
    (tables.upsertEntity row).marks = tables.marks := by
  unfold upsertEntity
  split <;> rfl

@[simp]
theorem marks_upsertEdge (tables : Tables) (edge : EdgeRow) :
    (tables.upsertEdge edge).marks = tables.marks := by
  unfold upsertEdge
  split <;> rfl

theorem resetPending_congr (same : tables.marks = other.marks) :
    tables.resetPending = other.resetPending := by
  rw [resetPending, resetPending, markValues, markValues, same]

theorem resetPending_emptied (tables : Tables) :
    tables.emptied.resetPending = true := by
  rw [emptied, resetPending_setState]
  decide

end Tables

namespace Replica

open CachedDirectory.Action

/-- Whether the marks stay as they are along an action. -/
abbrev KeepsMarks {α : Type} (action : Action Replica α) : Prop :=
  Follows (fun replica : Replica => replica.tables.marks) Eq action

theorem keepsMarks_write {α : Type} {change : Tables → Answer (α × Tables)}
    (kept :
      ∀ tables value after,
        change tables = .ok (value, after) → after.marks = tables.marks) :
    KeepsMarks (write change) := by
  intro replica
  rcases run_write_cases change replica with
      ⟨_, ran⟩ | ⟨value, tables, _, changed, ran⟩
  · rw [ran]
  · rw [ran]
    exact .single (kept _ value tables changed).symm

theorem keepsMarks_storeAll {α : Type} (rowOf : α → Answer EntityRow)
    (records : List α) :
    KeepsMarks (storeAll rowOf records) := by
  induction records with
  | nil => exact follows_pure 0
  | cons record rest inductionHypothesis =>
      apply follows_ofAnswer_bind
      intro row _
      apply Follows.bind
      · apply keepsMarks_write
        intro tables _ after equality
        cases equality
        exact tables.marks_upsertEntity row
      · exact fun _ =>
          inductionHypothesis.bind fun stored => follows_pure (stored + 1)

theorem keepsMarks_upsertMembership (edge : Membership) :
    KeepsMarks (upsertMembership edge) := by
  apply follows_ofAnswer_bind
  intro groupKey _
  apply follows_ofAnswer_bind
  intro memberKey _
  apply keepsMarks_write
  intro tables _ after connected
  obtain ⟨_, _, connected⟩ := Answer.bind_eq_ok_iff.mp connected
  obtain ⟨_, _, equality⟩ := Answer.bind_eq_ok_iff.mp connected
  cases equality
  exact tables.marks_upsertEdge _

/-- The replica after a reset. -/
def afterReset (replica : Replica) : Replica :=
  { replica with
    tables := replica.tables.emptied
    generation := replica.generation + 1
    memo := replica.memo.clear }

theorem run_reset_of_open {replica : Replica} (opened : replica.isOpen = true) :
    reset.run replica = (.ok ⟨⟩, replica.afterReset) := by
  have emptied : (update Tables.emptied).run replica = (.ok ⟨⟩, _) :=
    run_update_eq_ok_iff.mpr ⟨opened, rfl⟩
  rw [reset, run_bind_ok emptied]
  rfl

theorem run_reset_of_closed {replica : Replica}
    (closed : replica.isOpen = false) :
    reset.run replica = (.error closedStore, replica) := by
  have refused :
      (update Tables.emptied).run replica = (.error closedStore, replica) :=
    run_write_of_closed closed
  rw [reset, run_bind_error refused]

/-- A reset that fails leaves the replica as it is. -/
theorem resetPending_reset {replica : Replica}
    (pending : replica.tables.resetPending = true) :
    (reset.run replica).2.tables.resetPending = true := by
  rcases Bool.eq_false_or_eq_true replica.isOpen with opened | closed
  · rw [run_reset_of_open opened]
    exact replica.tables.resetPending_emptied
  · rw [run_reset_of_closed closed]
    exact pending

theorem run_requireReset_of_open {replica : Replica}
    (opened : replica.isOpen = true) :
    requireReset.run replica = (.ok replica.tables.resetPending, replica) := by
  show (replica.openTables >>= _, _) = _
  rw [openTables_of_open opened]
  rfl

theorem run_requireReset_of_closed {replica : Replica}
    (closed : replica.isOpen = false) :
    requireReset.run replica = (.error closedStore, replica) := by
  show (replica.openTables >>= _, _) = _
  rw [openTables_of_closed closed]
  rfl

end Replica

namespace Session

open CachedDirectory.Action

variable {α β : Type}

/-- Whether the marks of the store stay as they are along an action. -/
abbrev KeepsMarks (action : Action (Session α) β) : Prop :=
  Follows (fun session : Session α => session.replica.tables.marks) Eq action

theorem keepsMarks_onReplica {action : Action Replica β}
    (kept : Replica.KeepsMarks action) :
    KeepsMarks (onReplica action : Action (Session α) β) :=
  fun session => kept session.replica

theorem keepsMarks_ask (question : Action α β) : KeepsMarks (ask question) :=
  fun _ => .refl

/-- An action that keeps the marks keeps a reset pending. -/
theorem KeepsMarks.pending {action : Action (Session α) β}
    (kept : KeepsMarks action) {session : Session α}
    (pending : session.replica.tables.resetPending = true) :
    (action.run session).2.replica.tables.resetPending = true := by
  have same :
      session.replica.tables.marks =
          (action.run session).2.replica.tables.marks := by
    simpa [reflTransGen_eq_self (r := Eq)] using kept session
  rw [← Tables.resetPending_congr same]
  exact pending

variable [Authority α]

theorem keepsMarks_upsertGroupsPage (length position : Nat) :
    KeepsMarks (upsertGroupsPage length position : Action (Session α) Nat) := by
  unfold upsertGroupsPage
  split
  · exact follows_pure 0
  · exact (keepsMarks_ask _).bind fun _ =>
      keepsMarks_onReplica (Replica.keepsMarks_storeAll _ _)

theorem keepsMarks_upsertUsersPage (length position : Nat) :
    KeepsMarks (upsertUsersPage length position : Action (Session α) Nat) := by
  unfold upsertUsersPage
  split
  · exact follows_pure 0
  · exact (keepsMarks_ask _).bind fun _ =>
      keepsMarks_onReplica (Replica.keepsMarks_storeAll _ _)

end Session

namespace Resync

variable {α β : Type} {resync : Resync} {session : Session α}

theorem after_snd {action : Action (Session α) β} {next : β → Resync} :
    (resync.after action next session).2 = (action.run session).2 := by
  unfold after
  rcases action.run session with ⟨_ | _, changed⟩ <;> rfl

theorem store_snd {edge : Membership} {next : ResyncStage} :
    (resync.store edge next session).2 =
      ((Session.onReplica (Replica.upsertMembership edge)).run session).2 := by
  unfold store
  rcases (Session.onReplica (Replica.upsertMembership edge)).run session with
    ⟨error | value, changed⟩
  · cases error <;> rfl
  · rfl

variable [Authority α]

/-- A step that does not end with a success leaves a reset pending. -/
theorem pending_step (pending : session.replica.tables.resetPending = true)
    (unsuccessful :
      ∀ report, (resync.step session).1.answer? ≠ some (.ok report)) :
    (resync.step session).2.replica.tables.resetPending = true := by
  rcases resync with
    ⟨pageSize, report,
      _ | _ | _ | _ | position | ⟨edge, rest, following⟩ | _ | answer⟩
  all_goals dsimp only [step] at unsuccessful ⊢
  · rw [after_snd]
    exact pending
  · rw [after_snd]
    exact Replica.resetPending_reset pending
  · rw [after_snd]
    exact (Session.keepsMarks_upsertGroupsPage _ _).pending pending
  · rw [after_snd]
    exact (Session.keepsMarks_upsertUsersPage _ _).pending pending
  · rw [after_snd]
    exact pending
  · rw [store_snd]
    exact (Session.keepsMarks_onReplica
      (Replica.keepsMarks_upsertMembership edge)).pending pending
  · rcases Bool.eq_false_or_eq_true session.replica.isOpen with opened | closed
    · have marked :
          Replica.markSynchronized.run session.replica = (.ok ⟨⟩, _) :=
        Replica.run_update_eq_ok_iff.mpr ⟨opened, rfl⟩
      rw [after, Session.run_onReplica marked] at unsuccessful
      exact absurd rfl (unsuccessful report)
    · have refused : Replica.markSynchronized.run session.replica =
          (.error Replica.closedStore, session.replica) :=
            Replica.run_write_of_closed closed
      rw [after_snd, Session.run_onReplica refused]
      exact pending
  · exact pending

theorem run_of_answer {answer : Answer SyncReport} (steps : Nat)
    (answered : resync.answer? = some answer) :
    resync.run steps session = (some answer, session) := by
  cases steps with
  | zero => rw [run, answered]
  | succ steps => rw [run, answered]

theorem run_of_unanswered (steps : Nat) (unanswered : resync.answer? = none) :
    resync.run (steps + 1) session =
        run steps (resync.step session).1 (resync.step session).2 := by
  rw [run, unanswered]

/-- A resynchronization that does not succeed leaves a reset pending. -/
theorem pending_run (steps : Nat)
    (pending : session.replica.tables.resetPending = true)
    (unsuccessful :
      ∀ report, (resync.run steps session).1 ≠ some (.ok report)) :
    (resync.run steps session).2.replica.tables.resetPending = true := by
  induction steps generalizing resync session with
  | zero => exact pending
  | succ steps inductionHypothesis =>
      cases answered : resync.answer? with
      | some answer =>
          rw [run_of_answer _ answered]
          exact pending
      | none =>
          rw [run_of_unanswered steps answered] at unsuccessful ⊢
          refine inductionHypothesis (pending_step pending ?_) unsuccessful
          intro report succeeded
          apply unsuccessful report
          rw [run_of_answer steps succeeded]

end Resync

namespace Session

variable {α : Type} [Authority α] {session : Session α}

theorem pending_resync {pageSize : Nat}
    (pending : session.replica.tables.resetPending = true)
    (unsuccessful : ∀ report, (session.resync pageSize).1 ≠ some (.ok report)) :
    (session.resync pageSize).2.replica.tables.resetPending = true :=
  Resync.pending_run session.rounds pending unsuccessful

/-- A resynchronization of a replica that waits for it empties the tables
first. -/
theorem resync_of_pending (opened : session.replica.isOpen = true)
    (pending : session.replica.tables.resetPending = true) (pageSize : Nat) :
    session.resync pageSize =
      Resync.run (2 * Authority.extent session.authority + 6)
        ⟨max pageSize 1, { performed := true }, .groups⟩
        ⟨session.replica.afterReset, session.authority⟩ := by
  have needed := Replica.run_requireReset_of_open opened
  rw [pending] at needed
  have checked : (Resync.ofPageSize pageSize).step session =
      (⟨max pageSize 1, { performed := true }, .empty⟩, session) := by
    show Resync.after _ _ _ _ = _
    rw [Resync.after, run_onReplica needed]
    rfl
  have emptied :
      Resync.step ⟨max pageSize 1, { performed := true }, .empty⟩ session =
        (⟨max pageSize 1, { performed := true }, .groups⟩,
          ⟨session.replica.afterReset, session.authority⟩) := by
    show Resync.after _ _ _ _ = _
    rw [Resync.after, run_onReplica (Replica.run_reset_of_open opened)]
    rfl
  show (Resync.ofPageSize pageSize).run (_ + 6 + 1 + 1) session = _
  rw [Resync.run_of_unanswered _ rfl, checked,
    Resync.run_of_unanswered _ rfl, emptied]

/-- A resynchronization of a replica that does not wait for it does nothing. -/
theorem resync_of_current (opened : session.replica.isOpen = true)
    (current : session.replica.tables.resetPending = false) (pageSize : Nat) :
    session.resync pageSize = (some (.ok {}), session) := by
  have needless := Replica.run_requireReset_of_open opened
  rw [current] at needless
  have checked : (Resync.ofPageSize pageSize).step session =
      (⟨max pageSize 1, {}, .over (.ok ⟨⟩)⟩, session) := by
    show Resync.after _ _ _ _ = _
    rw [Resync.after, run_onReplica needless]
    rfl
  show (Resync.ofPageSize pageSize).run (_ + 7 + 1) session = _
  rw [Resync.run_of_unanswered _ rfl, checked, Resync.run_of_answer _ rfl]

/-- A resynchronization with a closed store fails and does nothing. -/
theorem resync_of_closed (closed : session.replica.isOpen = false)
    (pageSize : Nat) :
    session.resync pageSize = (some (.error Replica.closedStore), session) := by
  have refused := Replica.run_requireReset_of_closed closed
  have checked : (Resync.ofPageSize pageSize).step session =
      (⟨max pageSize 1, {}, .over (.error Replica.closedStore)⟩, session) := by
    show Resync.after _ _ _ _ = _
    rw [Resync.after, run_onReplica refused]
    rfl
  show (Resync.ofPageSize pageSize).run (_ + 7 + 1) session = _
  rw [Resync.run_of_unanswered _ rfl, checked, Resync.run_of_answer _ rfl]

end Session

end CachedDirectory
