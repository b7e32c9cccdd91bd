import CachedDirectory.Proofs.PendingResets

/-!
# Guarded resynchronizations

A resynchronization of a replica that waits for a reset never opens a store that
is filled in part. Whatever the authority answers, now or when it is asked
again, a reset is pending before each step, between the rows of a page that is
copied and after a failure; only the last step of a success ends this, when
everything else has been done.
-/

namespace CachedDirectory

namespace Replica

variable {replica : Replica}

/-- The replica once it is marked as complete. -/
def synchronized (replica : Replica) : Replica :=
  { replica with
    tables := replica.tables.setState populatedState
    generation := replica.generation + 1 }

theorem resetPending_synchronized (replica : Replica) :
    replica.synchronized.tables.resetPending = false := by
  have marked := replica.tables.resetPending_setState populatedState
  simpa [synchronized] using marked

theorem readTables_synchronized (opened : replica.isOpen = true) :
    replica.synchronized.readTables =
        .ok (replica.tables.setState populatedState) := by
  have marked : (replica.tables.setState populatedState).resetPending = false :=
    replica.resetPending_synchronized
  rw [readTables,
    openTables_of_open (show replica.synchronized.isOpen = true from opened)]
  show (if (replica.tables.setState populatedState).resetPending then _
    else _) = _
  rw [marked]
  rfl

theorem run_markSynchronized_eq_ok {after : Replica} {value : PUnit}
    (marked : markSynchronized.run replica = (.ok value, after)) :
    after = replica.synchronized :=
  (run_update_eq_ok_iff.mp marked).2

/-- What stands in the store between the two parts of a reset. -/
theorem resetPending_run_emptied
    (pending : replica.tables.resetPending = true) :
    ((update Tables.emptied).run replica).2.tables.resetPending = true := by
  by_cases opened : replica.isOpen = true
  · have emptied : (update Tables.emptied).run replica = (.ok ⟨⟩, _) :=
      run_update_eq_ok_iff.mpr ⟨opened, rfl⟩
    rw [emptied]
    exact replica.tables.resetPending_emptied
  · have refused :
        (update Tables.emptied).run replica = (.error closedStore, replica) :=
      run_write_of_closed (eq_false_of_ne_true opened)
    rw [refused]
    exact pending

end Replica

theorem Session.replica_of_ask {α β : Type} {question : Action α β}
    {session asked : Session α} {answer : Answer β}
    (answered : (Session.ask question).run session = (answer, asked)) :
    asked.replica = session.replica := by
  cases answered
  rfl

namespace Resync

variable {α : Type} {resync : Resync} {session : Session α}

/-- What is kept along a resynchronization of a replica that waited for a
reset. -/
structure IsGuarded (resync : Resync) (session : Session α) : Prop where
  /-- Only a resynchronization that has found out that it is needed can
  succeed. -/
  performed : resync.report.performed = true ∨ resync.stage = .check ∨
    ∃ error, resync.stage = .over (.error error)
  pending : (∀ report, resync.answer? ≠ some (.ok report)) →
    session.replica.tables.resetPending = true
  marked : ∀ report, resync.answer? = some (.ok report) →
    ∃ before : Replica,
      before.tables.resetPending = true ∧ session.replica = before.synchronized

theorem isGuarded_of_unanswered (unanswered : resync.answer? = none)
    (performed : resync.report.performed = true ∨ resync.stage = .check)
    (pending : session.replica.tables.resetPending = true) :
    resync.IsGuarded session where
  performed := performed.imp_right Or.inl
  pending := fun _ => pending
  marked report answered := by
    rw [unanswered] at answered
    cases answered

theorem isGuarded_failed (pending : session.replica.tables.resetPending = true)
    (error : DirectoryError) : (resync.failed error).IsGuarded session where
  performed := Or.inr (Or.inr ⟨error, rfl⟩)
  pending := fun _ => pending
  marked report answered := by cases answered

theorem isGuarded_after {β : Type} {action : Action (Session α) β}
    {next : β → Resync}
    (pending : (action.run session).2.replica.tables.resetPending = true)
    (performed : ∀ value, (next value).report.performed = true)
    (unanswered : ∀ value, (next value).answer? = none) :
    (resync.after action next session).1.IsGuarded
        (resync.after action next session).2 := by
  unfold after
  rcases result : action.run session with ⟨error | value, changed⟩
  · rw [result] at pending
    exact isGuarded_failed pending error
  · rw [result] at pending
    exact isGuarded_of_unanswered (unanswered value)
      (Or.inl (performed value)) pending

theorem answer?_stageOfPage (pageSize : Nat) (report : SyncReport)
    (page : List Membership) (following : Option Nat) :
    answer? ⟨pageSize, report, stageOfPage page following⟩ = none := by
  rcases page with _ | ⟨edge, rest⟩
  · cases following <;> rfl
  · rfl

theorem isGuarded_store {edge : Membership} {rest : List Membership}
    {following : Option Nat}
    (pending : session.replica.tables.resetPending = true)
    (performed : resync.report.performed = true) :
    (resync.store edge (stageOfPage rest following) session).1.IsGuarded
      (resync.store edge (stageOfPage rest following) session).2 := by
  have kept := (Session.keepsMarks_onReplica (α := α)
    (Replica.keepsMarks_upsertMembership edge)).pending pending
  unfold store
  rcases result :
    (Session.onReplica (Replica.upsertMembership edge)).run session with
    ⟨error | value, changed⟩
  · rw [result] at kept
    cases error with
    | notFound kind id =>
        exact isGuarded_of_unanswered (answer?_stageOfPage _ _ _ _)
          (Or.inl performed) kept
    | _ => exact isGuarded_failed kept _
  · rw [result] at kept
    exact isGuarded_of_unanswered (answer?_stageOfPage _ _ _ _)
      (Or.inl performed) kept

theorem IsGuarded.performed_of_answer (guarded : resync.IsGuarded session)
    {report : SyncReport} (succeeded : resync.answer? = some (.ok report)) :
    report.performed = true := by
  rcases resync with ⟨pageSize, current, stage⟩
  rcases stage with _ | _ | _ | _ | _ | _ | _ | (error | value)
  all_goals cases succeeded
  simpa using guarded.performed

variable [Authority α]

/-- A resynchronization after a number of steps; it takes none once it is
over. -/
def advance : Nat → Resync → Session α → Resync × Session α
  | 0, resync, session => (resync, session)
  | steps + 1, resync, session =>
      advance steps (resync.step session).1 (resync.step session).2

theorem step_of_answer {answer : Answer SyncReport}
    (answered : resync.answer? = some answer) :
    resync.step session = (resync, session) := by
  rcases resync with ⟨pageSize, report, stage⟩
  cases stage with
  | check | empty | groups | users | edges | storing | complete =>
      cases answered
  | _ => rfl

theorem advance_of_answer {answer : Answer SyncReport}
    (answered : resync.answer? = some answer) (steps : Nat) :
    resync.advance steps session = (resync, session) := by
  induction steps with
  | zero => rfl
  | succ steps inductionHypothesis =>
      rw [advance, step_of_answer answered]
      exact inductionHypothesis

/-- A run answers as it stands after its steps. -/
theorem run_eq_advance (steps : Nat) :
    resync.run steps session =
      ((resync.advance steps session).1.answer?,
          (resync.advance steps session).2) := by
  induction steps generalizing resync session with
  | zero => rfl
  | succ steps inductionHypothesis =>
      cases answered : resync.answer? with
      | some answer =>
          rw [run_of_answer _ answered, advance_of_answer answered, answered]
      | none =>
          rw [run_of_unanswered steps answered, inductionHypothesis, advance]

/-- The sessions that can be seen from before a step until it is over: the one
from which it is taken, the one with the emptied store, and those between the
records of a page, of which a number have been stored. -/
inductive Visits (resync : Resync) (session : Session α) : Session α → Prop
  | start : Visits resync session session
  | emptied (emptying : resync.stage = .empty) :
      Visits resync session
        ((Session.onReplica (Replica.update Tables.emptied)).run session).2
  | groups (copying : resync.stage = .groups) (groups : List Group)
      (asked : Session α)
      (answered :
        (Session.ask (Authority.groups resync.report.groups
          resync.pageSize)).run session =
          (.ok groups, asked))
      (stored : Nat) :
      Visits resync session
        ((Session.onReplica (Replica.storeAll EntityRow.ofGroup?
          ((groups.take resync.pageSize).take stored))).run asked).2
  | users (copying : resync.stage = .users) (users : List User)
      (asked : Session α)
      (answered :
        (Session.ask (Authority.users resync.report.users resync.pageSize)).run
          session =
        (.ok users, asked))
      (stored : Nat) :
      Visits resync session
        ((Session.onReplica (Replica.storeAll EntityRow.ofUser?
          ((users.take resync.pageSize).take stored))).run asked).2

theorem pending_of_visits (pending : session.replica.tables.resetPending = true)
    {point : Session α} (visits : resync.Visits session point) :
    point.replica.tables.resetPending = true := by
  cases visits with
  | start => exact pending
  | emptied => exact Replica.resetPending_run_emptied pending
  | groups _ groups asked answered stored =>
      rw [← Session.replica_of_ask answered] at pending
      exact (Session.keepsMarks_onReplica
        (Replica.keepsMarks_storeAll _ _)).pending pending
  | users _ users asked answered stored =>
      rw [← Session.replica_of_ask answered] at pending
      exact (Session.keepsMarks_onReplica
        (Replica.keepsMarks_storeAll _ _)).pending pending

/-- The last step succeeds by marking the store as complete, or else it leaves a
reset pending. -/
theorem isGuarded_complete {pageSize : Nat} {report : SyncReport}
    (pending : session.replica.tables.resetPending = true)
    (performed : report.performed = true) :
    (step ⟨pageSize, report, .complete⟩ session).1.IsGuarded
      (step ⟨pageSize, report, .complete⟩ session).2 := by
  dsimp only [step]
  unfold after
  rcases result : Replica.markSynchronized.run session.replica with
      ⟨error | value, changed⟩
  · obtain rfl := Replica.replica_of_write_error result
    rw [Session.run_onReplica result]
    exact isGuarded_failed pending error
  · obtain rfl := Replica.run_markSynchronized_eq_ok result
    rw [Session.run_onReplica result]
    refine ⟨Or.inl performed,
      fun unsuccessful => ?_, fun _ _ => ⟨_, pending, rfl⟩⟩
    exact absurd rfl (unsuccessful report)

/-- A step keeps the guard. -/
theorem IsGuarded.step (guarded : resync.IsGuarded session) :
    (resync.step session).1.IsGuarded (resync.step session).2 := by
  cases answered : resync.answer? with
  | some answer =>
      rw [step_of_answer answered]
      exact guarded
  | none =>
      have pending : session.replica.tables.resetPending = true := by
        apply guarded.pending
        simp [answered]
      rcases resync with ⟨pageSize, report, stage⟩
      have performed (further : stage ≠ .check) : report.performed = true := by
        rcases guarded.performed with performed | checking | ⟨error, failed⟩
        · exact performed
        · exact absurd checking further
        · obtain rfl : stage = .over (.error error) := failed
          cases answered
      cases stage with
      | check =>
          by_cases opened : session.replica.isOpen = true
          · have needed := Replica.run_requireReset_of_open opened
            rw [pending] at needed
            dsimp only [Resync.step]
            rw [after, Session.run_onReplica needed]
            exact isGuarded_of_unanswered rfl (Or.inl rfl) pending
          · have refused :=
              Replica.run_requireReset_of_closed (eq_false_of_ne_true opened)
            dsimp only [Resync.step]
            rw [after, Session.run_onReplica refused]
            exact isGuarded_failed pending _
      | empty =>
          have emptied := Replica.resetPending_reset pending
          exact isGuarded_after emptied (fun _ => performed (by simp)) fun _ =>
            rfl
      | groups =>
          have copied := (Session.keepsMarks_upsertGroupsPage pageSize
            report.groups).pending pending
          refine isGuarded_after copied (fun _ => performed (by simp))
            fun value => ?_
          dsimp only
          split <;> rfl
      | users =>
          have copied :=
            (Session.keepsMarks_upsertUsersPage pageSize report.users).pending
              pending
          refine isGuarded_after copied (fun _ => performed (by simp))
            fun value => ?_
          dsimp only
          split <;> rfl
      | edges position =>
          have asked :=
            (Session.keepsMarks_ask
              (Authority.memberships position pageSize)).pending
            pending
          refine isGuarded_after asked (fun _ => performed (by simp))
            fun page => ?_
          exact answer?_stageOfPage _ _ page _
      | storing edge rest following =>
          exact isGuarded_store pending (performed (by simp))
      | complete => exact isGuarded_complete pending (performed (by simp))
      | _ =>
          rename_i given
          cases given <;> cases answered

theorem IsGuarded.advance (guarded : resync.IsGuarded session) (steps : Nat) :
    (resync.advance steps session).1.IsGuarded
        (resync.advance steps session).2 := by
  induction steps generalizing resync session with
  | zero => exact guarded
  | succ steps inductionHypothesis => exact inductionHypothesis guarded.step

end Resync

namespace Session

variable {α : Type} [Authority α] {session : Session α}

/-- A resynchronization never opens a store that is filled in part. However many
steps it has taken, whatever the authority has answered: a reset is pending at
every point unless it has succeeded, in particular when it has failed; and if it
has succeeded, it had work to do and the store was marked as complete by its
very last change. -/
theorem resync_is_guarded (pending : session.replica.tables.resetPending = true)
    (pageSize steps : Nat) :
    ∃ current reached,
      (Resync.ofPageSize pageSize).advance steps session = (current, reached) ∧
        (Resync.ofPageSize pageSize).run steps session =
          (current.answer?, reached) ∧
          ((∀ report, current.answer? ≠ some (.ok report)) →
            ∀ point,
              current.Visits reached point →
                point.replica.tables.resetPending = true) ∧
          (∀ error, current.answer? = some (.error error) →
            reached.replica.tables.resetPending = true) ∧
          ∀ report, current.answer? = some (.ok report) →
            report.performed = true ∧
              reached.replica.tables.resetPending = false ∧
              ∃ before : Replica, before.tables.resetPending = true ∧
                reached.replica = before.synchronized := by
  have began : (Resync.ofPageSize pageSize).IsGuarded session :=
    Resync.isGuarded_of_unanswered rfl (Or.inr rfl) pending
  have guarded := began.advance steps
  refine ⟨_, _, rfl, Resync.run_eq_advance steps, ?_, ?_, ?_⟩
  · intro unsuccessful point visits
    exact Resync.pending_of_visits (guarded.pending unsuccessful) visits
  · intro error failed
    apply guarded.pending
    simp [failed]
  · intro report succeeded
    obtain ⟨before, waited, same⟩ := guarded.marked report succeeded
    refine ⟨guarded.performed_of_answer succeeded, ?_, before, waited, same⟩
    rw [same]
    exact before.resetPending_synchronized

/-- The sample of a roster is copied: after four steps its group is stored and a
reset is still pending, after ten the store is complete. -/
theorem resync_is_guarded_sample :
    Replica.unfilled.tables.resetPending = true ∧
      ∃ midway reached,
        (Resync.ofPageSize 1).run 4
          ⟨Replica.unfilled, RosterEdit.applyAll {} Roster.sample⟩ =
            (none, midway) ∧
          midway.replica.tables.entities.length = 1 ∧
            midway.replica.tables.resetPending = true ∧
              (Resync.ofPageSize 1).run 10
                  ⟨Replica.unfilled, RosterEdit.applyAll {} Roster.sample⟩ =
                (some (.ok ⟨true, 1, 1, 1, 0⟩), reached) ∧
                reached.replica.tables.resetPending = false := by
  let start : Session Roster :=
    ⟨Replica.unfilled, RosterEdit.applyAll {} Roster.sample⟩
  have pending : start.replica.tables.resetPending = true := by decide
  have unanswered : ((Resync.ofPageSize 1).run 4 start).1 = none := by
    decide +kernel
  have answered :
      ((Resync.ofPageSize 1).run 10 start).1 =
          some (.ok ⟨true, 1, 1, 1, 0⟩) := by
    decide +kernel
  obtain ⟨current, midway, _, paused, waits, _, _⟩ :=
    resync_is_guarded pending 1 4
  obtain ⟨final, reached, _, ended, _, _, completes⟩ :=
    resync_is_guarded pending 1 10
  rw [paused] at unanswered
  rw [ended] at answered
  dsimp only at unanswered answered
  rw [unanswered] at paused
  rw [answered] at ended
  refine ⟨pending, midway, reached, paused, ?_, ?_, ended,
    (completes _ answered).2.1⟩
  · have stored :
        ((Resync.ofPageSize 1).run 4
            start).2.replica.tables.entities.length = 1 := by
      decide +kernel
    rw [paused] at stored
    exact stored
  · apply waits _ midway .start
    simp [unanswered]

end Session

end CachedDirectory
