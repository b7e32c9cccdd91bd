import CachedDirectory.Proofs.FoldedTexts
import CachedDirectory.Proofs.PendingResets
import CachedDirectory.Proofs.ResyncProgress

/-!
# When a resynchronization succeeds

Copying a roster can fail only because the store is closed, the credentials are
rejected, or an id is blank. If none of this is so, a resynchronization of a
replica that waits for it succeeds.
-/

namespace CachedDirectory

open Text

namespace Replica

variable {replica : Replica}

theorem exists_run_storeAll {α : Type} {rowOf : α → Answer EntityRow}
    {records : List α}
    (storable : ∀ record ∈ records, ∃ row, rowOf record = .ok row)
    (opened : replica.isOpen = true) :
    ∃ stored after,
        (storeAll rowOf records).run replica = (.ok stored, after) := by
  induction records generalizing replica with
  | nil => exact ⟨0, replica, rfl⟩
  | cons record rest inductionHypothesis =>
      obtain ⟨row, found⟩ := storable record List.mem_cons_self
      have written : (storeRow row).run replica = (.ok ⟨⟩, _) :=
        run_update_eq_ok_iff.mpr ⟨opened, rfl⟩
      have others : ∀ other ∈ rest, ∃ row, rowOf other = .ok row :=
        fun other member => storable other (List.mem_cons_of_mem record member)
      obtain ⟨stored, after, ran⟩ :
          ∃ stored after,
            (storeAll rowOf rest).run ((storeRow row).run replica).2 =
            (.ok stored, after) := by
        rw [written]
        exact inductionHypothesis others opened
      rw [written] at ran
      refine ⟨stored + 1, after, ?_⟩
      rw [storeAll, found]
      exact (Action.run_bind_ok written).trans (Action.run_bind_ok ran)

end Replica

/-- Whether a roster hands out its records and none of its ids is blank. -/
structure Roster.IsStorable (roster : Roster) : Prop where
  granted : roster.isDenied = false
  groups : ∀ group ∈ roster.groups, isBlank group.id = false
  users : ∀ user ∈ roster.users, isBlank user.id = false
  edges :
    ∀ edge ∈ roster.edges,
      isBlank edge.groupId = false ∧ isBlank edge.memberId = false

namespace Session

variable {roster : Roster} {replica : Replica} {length : Nat}

theorem exists_run_upsertGroupsPage (storable : roster.IsStorable)
    (positive : 0 < length) (opened : replica.isOpen = true) (position : Nat) :
    ∃ copied after, (upsertGroupsPage length position).run ⟨replica, roster⟩ =
      (.ok copied, ⟨after, roster⟩) := by
  have rows : ∀ group ∈ (roster.groups.drop position).take length,
      ∃ row, EntityRow.ofGroup? group = .ok row := by
    intro group member
    have named :=
      storable.groups group (List.mem_of_mem_drop (List.mem_of_mem_take member))
    exact ⟨_, EntityRow.ofGroup?_eq_ok_iff.mpr ⟨named, rfl⟩⟩
  obtain ⟨copied, after, stored⟩ := Replica.exists_run_storeAll rows opened
  refine ⟨copied, after, ?_⟩
  rw [run_upsertGroupsPage positive, storable.granted, stored]
  rfl

theorem exists_run_upsertUsersPage (storable : roster.IsStorable)
    (positive : 0 < length) (opened : replica.isOpen = true) (position : Nat) :
    ∃ copied after, (upsertUsersPage length position).run ⟨replica, roster⟩ =
      (.ok copied, ⟨after, roster⟩) := by
  have rows : ∀ user ∈ (roster.users.drop position).take length,
      ∃ row, EntityRow.ofUser? user = .ok row := by
    intro user member
    have named :=
      storable.users user (List.mem_of_mem_drop (List.mem_of_mem_take member))
    exact ⟨_, EntityRow.ofUser?_eq_ok_iff.mpr ⟨named, rfl⟩⟩
  obtain ⟨copied, after, stored⟩ := Replica.exists_run_storeAll rows opened
  refine ⟨copied, after, ?_⟩
  rw [run_upsertUsersPage positive, storable.granted, stored]
  rfl

end Session

namespace Resync

variable {roster : Roster} {replica : Replica} {resync : Resync}
  {left length : Nat}

/-- Whether a resynchronization has not failed. -/
def Thrives (resync : Resync) : Prop :=
  ∀ error, resync.answer? ≠ some (.error error)

theorem thrives_of_unanswered (unanswered : resync.answer? = none) :
    resync.Thrives := by
  intro error failed
  rw [unanswered] at failed
  cases failed

theorem thrives_of_ok {report : SyncReport}
    (answered : resync.answer? = some (.ok report)) :
    resync.Thrives := by
  intro error failed
  rw [answered] at failed
  cases failed

theorem thrives_after {α β : Type} {action : Action (Session α) β}
    {next : β → Resync} {session : Session α}
    (ran : ∃ value after, action.run session = (.ok value, after))
    (thrives : ∀ value, (next value).Thrives) :
    (resync.after action next session).1.Thrives := by
  obtain ⟨value, after, ran⟩ := ran
  rw [Resync.after, ran]
  exact thrives value

theorem thrives_stageOfPage (report : SyncReport) (page : List Membership)
    (following : Option Nat) :
    Thrives ⟨length, report, stageOfPage page following⟩ := by
  rcases page with _ | ⟨edge, rest⟩
  · cases following <;> exact thrives_of_unanswered rfl
  · exact thrives_of_unanswered rfl

/-- No step of a resynchronization from a storable roster fails. -/
theorem Progress.thrives_step
    (progress : Progress roster length left resync replica.tables)
    (storable : roster.IsStorable) (positive : 0 < length)
    (opened : replica.isOpen = true) (thrives : resync.Thrives) :
    (resync.step ⟨replica, roster⟩).1.Thrives := by
  rcases state : replica.tables with ⟨entityRows, edgeRows, marks⟩
  rw [state] at progress
  cases progress with
  | check pending =>
      apply thrives_after
        ⟨_, _, Session.run_onReplica (Replica.run_requireReset_of_open opened)⟩
      intro needed
      cases needed
      · exact thrives_of_ok rfl
      · exact thrives_of_unanswered rfl
  | empty =>
      apply thrives_after
        ⟨_, _, Session.run_onReplica (Replica.run_reset_of_open opened)⟩
      exact fun _ => thrives_of_unanswered rfl
  | groups listed entities edges =>
      obtain ⟨copied, after, ran⟩ :=
        Session.exists_run_upsertGroupsPage storable positive opened _
      apply thrives_after ⟨copied, _, ran⟩
      intro copied
      dsimp only
      split <;> exact thrives_of_unanswered rfl
  | users granted listed entities edges =>
      obtain ⟨copied, after, ran⟩ :=
        Session.exists_run_upsertUsersPage storable positive opened _
      apply thrives_after ⟨copied, _, ran⟩
      intro copied
      dsimp only
      split <;> exact thrives_of_unanswered rfl
  | @edges _ done rest granted listed entities edges =>
      have ran :=
        Roster.run_ask (fun roster => roster.edgePage done.length length)
        ⟨replica, roster⟩
      rw [granted] at ran
      apply thrives_after ⟨_, _, ran⟩
      exact fun page => thrives_stageOfPage _ page _
  | @storing _ done page rest edge following granted listed followed
      entities edges =>
      have member : edge ∈ roster.edges := by
        rw [← roster.perm_sortedEdges.mem_iff, listed]
        simp
      obtain ⟨groupNamed, memberNamed⟩ := storable.edges edge member
      dsimp only [step]
      rw [store]
      rcases Replica.run_upsertMembership_of_named opened groupNamed
        memberNamed with
        ⟨_, _, _, ran⟩ | ⟨_, ran⟩
      · rw [Session.run_onReplica ran]
        exact thrives_stageOfPage _ page following
      · rw [Session.run_onReplica ran]
        exact thrives_stageOfPage _ page following
  | complete granted entities edges =>
      have marked : Replica.markSynchronized.run replica = (.ok ⟨⟩, _) :=
        Replica.run_update_eq_ok_iff.mpr ⟨opened, rfl⟩
      apply thrives_after ⟨_, _, Session.run_onReplica marked⟩
      exact fun _ => thrives_of_ok rfl
  | synchronized granted entities edges marked => exact thrives
  | failed error => exact thrives

theorem Progress.thrives_run {steps : Nat} (sound : roster.Sound)
    (progress : Progress roster length left resync replica.tables)
    (storable : roster.IsStorable) (positive : 0 < length)
    (opened : replica.isOpen = true) (thrives : resync.Thrives)
    (error : DirectoryError) :
    (Resync.run steps resync ⟨replica, roster⟩).1 ≠ some (.error error) := by
  induction steps generalizing left resync replica with
  | zero => exact thrives error
  | succ steps inductionHypothesis =>
      cases answered : resync.answer? with
      | some answer =>
          rw [run_of_answer _ answered, ← answered]
          exact thrives error
      | none =>
          rw [run_of_unanswered steps answered]
          have stillThrives :=
            progress.thrives_step storable positive opened thrives
          have taken := resync.steps_step ⟨replica, roster⟩
          obtain ⟨unchanged, _, _, next⟩ :=
            progress.advances sound positive answered
          rcases result : resync.step ⟨replica, roster⟩ with
              ⟨following, after, authority⟩
          rw [result] at unchanged next stillThrives taken
          obtain rfl : authority = roster := unchanged
          exact inductionHypothesis next
            ((Replica.isOpen_of_steps taken).trans opened) stillThrives

end Resync

/-- A resynchronization from a storable roster succeeds if the replica waits for
it. -/
theorem Session.resync_eq_ok {roster : Roster} {replica : Replica}
    (sound : roster.Sound) (storable : roster.IsStorable)
    (opened : replica.isOpen = true)
    (pending : replica.tables.resetPending = true) (pageSize : Nat) :
    ∃ after,
      resync ⟨replica, roster⟩ pageSize =
        (some (.ok roster.copyReport), ⟨after, roster⟩) ∧
      roster.IsCopiedTo after.tables := by
  obtain ⟨answer, after, ran, copies⟩ := exists_resync sound pageSize pending
  have progress :
      Resync.Progress roster (max pageSize 1) _ (.ofPageSize pageSize)
          replica.tables :=
    .check pending
  have unfailed :
      ∀ error, (resync ⟨replica, roster⟩ pageSize).1 ≠ some (.error error) :=
    progress.thrives_run sound storable (Nat.le_max_right pageSize 1) opened
      (Resync.thrives_of_unanswered rfl)
  cases answer with
  | ok report =>
      obtain ⟨rfl, entities, edges, _, _⟩ := copies report rfl
      rw [Roster.reportAfter_sortedEdges] at ran
      exact ⟨after, ran, sound.isCopiedTo entities edges⟩
  | error error => exact absurd (congrArg Prod.fst ran) (unfailed error)

end CachedDirectory
