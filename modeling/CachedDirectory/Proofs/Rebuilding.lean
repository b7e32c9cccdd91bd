import CachedDirectory.Proofs.Integrity

/-!
# Rebuilt stores

A resynchronization begins with whatever rows an earlier run has left. Once it
has emptied the tables they keep their integrity, and the replica goes on
answering as it was set up to.
-/

namespace CachedDirectory

open Relation Text

namespace Replica

variable {replica after : Replica}

variable {settings : Settings} {converter : Converter}

theorem isOpen_of_steps (steps : ReflTransGen Step replica after) :
    after.isOpen = replica.isOpen := by
  induction steps with
  | refl => rfl
  | tail _ step inductionHypothesis =>
      rw [← inductionHypothesis]
      cases step <;> rfl

theorem converter_of_steps (steps : ReflTransGen Step replica after) :
    after.converter = replica.converter := by
  induction steps with
  | refl => rfl
  | tail _ step inductionHypothesis =>
      rw [← inductionHypothesis]
      cases step <;> rfl

theorem pageSize_of_steps (steps : ReflTransGen Step replica after) :
    after.pageSize = replica.pageSize := by
  induction steps with
  | refl => rfl
  | tail _ step inductionHypothesis =>
      rw [← inductionHypothesis]
      cases step <;> rfl

/-- Whether a replica reads at least one row at once, and copies at least one
record. -/
structure HasRoom (replica : Replica) : Prop where
  buffered : 0 < replica.bufferSize
  paged : 0 < replica.pageSize

theorem hasRoom_of_connect {settings : Settings} {converter : Converter}
    {tables : Tables}
    (connected : connect settings converter tables = .ok replica) :
    replica.HasRoom := by
  obtain ⟨dialect, _, equality⟩ := Answer.bind_eq_ok_iff.mp connected
  cases equality
  exact ⟨Nat.le_max_right _ 1, Nat.le_max_right _ 1⟩

theorem Reached.hasRoom (reached : Reached replica) : replica.HasRoom := by
  refine Reached.invariant ?_ ?_ (fun _ room => ⟨room.buffered, room.paged⟩)
    reached
  · exact fun _ _ _ _ connected _ => hasRoom_of_connect connected
  · intro replica after move room
    cases move with
    | step _ step => cases step <;> exact ⟨room.buffered, room.paged⟩
    | read reading =>
        obtain ⟨memo, same⟩ := reading.exists_memo replica
        rw [same]
        exact ⟨room.buffered, room.paged⟩
    | pass => exact ⟨room.buffered, room.paged⟩

end Replica

namespace Resync

/-- What a resynchronization makes of a replica, whatever that was before: once
the tables have been emptied, the replica is open and they are sound. -/
inductive Rebuilds : Resync → Replica → Prop
  | check {pageSize : Nat} {replica : Replica} :
      Rebuilds ⟨pageSize, {}, .check⟩ replica
  | idle {pageSize : Nat} {replica : Replica} :
      Rebuilds ⟨pageSize, {}, .over (.ok ⟨⟩)⟩ replica
  | empty {pageSize : Nat} {report : SyncReport} {replica : Replica} :
      Rebuilds ⟨pageSize, report, .empty⟩ replica
  | failed {pageSize : Nat} {report : SyncReport} {error : DirectoryError}
      {replica : Replica} :
      Rebuilds ⟨pageSize, report, .over (.error error)⟩ replica
  | rebuilt {resync : Resync} {replica : Replica}
      (opened : replica.isOpen = true)
      (sound : replica.tables.Sound) : Rebuilds resync replica

variable {α : Type} {resync : Resync} {session : Session α}

theorem rebuilds_after {β : Type} {action : Action Replica β}
    {next : β → Resync}
    (rebuilds :
      ∀ value after,
        action.run session.replica = (.ok value, after) →
          Rebuilds (next value) after) :
    Rebuilds (resync.after (Session.onReplica action) next session).1
      (resync.after (Session.onReplica action) next session).2.replica := by
  rcases result : action.run session.replica with ⟨answer, after⟩
  rw [Resync.after, Session.run_onReplica result]
  cases answer with
  | ok value => exact rebuilds value after result
  | error error => exact .failed

variable [Authority α]

theorem Rebuilds.step (rebuilds : Rebuilds resync session.replica) :
    Rebuilds (resync.step session).1 (resync.step session).2.replica := by
  rcases session with ⟨replica, authority⟩
  cases rebuilds with
  | check =>
      apply rebuilds_after
      intro needed _ _
      cases needed with
      | true => exact .empty
      | false => exact .idle
  | idle => exact .idle
  | empty =>
      apply rebuilds_after
      intro _ after result
      obtain ⟨opened, rfl⟩ := Replica.run_reset_eq_ok result
      exact .rebuilt opened (Tables.sound_emptied replica.tables)
  | failed => exact .failed
  | rebuilt opened sound =>
      have steps := resync.steps_step ⟨replica, authority⟩
      exact .rebuilt ((Replica.isOpen_of_steps steps).trans opened)
        (Replica.sound_of_steps steps sound)

theorem Rebuilds.answer {replica : Replica} {report : SyncReport}
    (rebuilds : Rebuilds resync replica)
    (answered : resync.answer? = some (.ok report))
    (performed : report.performed = true) :
    replica.isOpen = true ∧ replica.tables.Sound := by
  cases rebuilds with
  | rebuilt opened sound => exact ⟨opened, sound⟩
  | idle =>
      cases answered
      cases performed
  | check | empty | failed => cases answered

theorem Rebuilds.run {steps : Nat} {report : SyncReport} {after : Session α}
    (rebuilds : Rebuilds resync session.replica)
    (result : resync.run steps session = (some (.ok report), after))
    (performed : report.performed = true) :
    after.replica.isOpen = true ∧ after.replica.tables.Sound := by
  induction steps generalizing resync session with
  | zero =>
      obtain ⟨answered, rfl⟩ := Prod.mk.inj result
      exact rebuilds.answer answered performed
  | succ steps inductionHypothesis =>
      rw [Resync.run] at result
      cases answered : resync.answer? with
      | some answer =>
          rw [answered] at result
          cases result
          exact rebuilds.answer answered performed
      | none =>
          rw [answered] at result
          exact inductionHypothesis rebuilds.step result

end Resync

/-- A resynchronization that had something to do and succeeded leaves an open
replica with a store that keeps its integrity, whatever the store held
before. -/
theorem Session.sound_of_resync {α : Type} [Authority α]
    {session after : Session α} {pageSize : Nat} {report : SyncReport}
    (result : session.resync pageSize = (some (.ok report), after))
    (performed : report.performed = true) :
    after.replica.isOpen = true ∧ after.replica.tables.Sound :=
  Resync.Rebuilds.check.run result performed

end CachedDirectory
