import CachedDirectory.Proofs.StoreChanges
import CachedDirectory.Replica.Resync

/-!
# The steps of synchronization

Everything that keeps a replica in step with its authority goes through
committed changes of the tables, of which there are only a few sorts. A call
makes any number of them, whatever the authority answers and also if the call
fails midway, and does nothing else to the replica than that it may forget what
is remembered.
-/

namespace CachedDirectory

open Relation Text

/-- The changes of the tables that are ever committed to keep a replica in
step. -/
inductive Tables.Change : Tables → Tables → Prop
  | upsertEntity (tables : Tables) (row : EntityRow) (record : row.IsRecord) :
      Change tables (tables.upsertEntity row)
  | upsertEdge (tables : Tables) (edge : EdgeRow)
      (ends :
        edge.groupPlace ∈ tables.places ∧ edge.memberPlace ∈ tables.places) :
      Change tables (tables.upsertEdge edge)
  /-- A user is written and receives the groups of a stored one. -/
  | copy (tables : Tables) (user : User) (source : String)
      (named : isBlank user.id = false) :
      Change tables
        ((tables.upsertEntity (.ofUser (fold user.id) user)).copyEdges
          (.text MemberKind.user.name) (.text source) (.text (fold user.id)))
  | dropGroup (tables : Tables) (key : String) :
      Change tables (tables.dropGroup (.text key))
  | dropGroups (tables : Tables) : Change tables tables.dropGroups
  | dropUser (tables : Tables) (key : String) :
      Change tables (tables.dropUser (.text key))
  | dropUsers (tables : Tables) : Change tables tables.dropUsers
  | dropEdge (tables : Tables) (edge : EdgeRow) :
      Change tables (tables.dropEdge edge)
  | setState (tables : Tables) (state : String) :
      Change tables (tables.setState state)
  | empty (tables : Tables) : Change tables tables.emptied

namespace Tables

variable {tables after : Tables}

theorem Change.sound (change : Change tables after) (sound : tables.Sound) :
    after.Sound := by
  cases change with
  | upsertEntity row record => exact sound.upsertEntity record
  | upsertEdge edge ends => exact sound.upsertEdge ends
  | copy user source named =>
      have written := sound.upsertEntity (.user user 1 named)
      exact written.copyEdges (mem_places_upsertEntity.mpr (Or.inr rfl))
  | dropGroup key => exact sound.dropGroup key
  | dropGroups => exact sound.dropGroups
  | dropUser key => exact sound.dropUser key
  | dropUsers => exact sound.dropUsers
  | dropEdge edge => exact sound.dropEdge edge
  | setState state => exact sound.setState state
  | empty => exact sound_emptied tables

theorem requireEntity_eq_ok_iff {kind : EntityKind} {key id : String}
    {value : PUnit} :
    tables.requireEntity kind key id = .ok value ↔
        tables.holds kind key = true := by
  unfold requireEntity
  cases tables.holds kind key <;> simp

theorem connectStored_eq_ok_iff {edge : Membership}
    {groupKey memberKey : String} {value : PUnit} :
    tables.connectStored edge groupKey memberKey = .ok (value, after) ↔
      tables.holds .group groupKey = true ∧
        tables.holds edge.memberKind.entityKind memberKey = true ∧
          after = tables.upsertEdge
              (.ofKeys groupKey edge.memberKind memberKey) := by
  unfold connectStored
  simp only [Answer.bind_eq_ok_iff, requireEntity_eq_ok_iff]
  constructor
  · rintro ⟨_, group, _, member, equality⟩
    cases equality
    exact ⟨group, member, rfl⟩
  · rintro ⟨group, member, rfl⟩
    exact ⟨⟨⟩, group, ⟨⟩, member, rfl⟩

theorem change_of_connectStored {edge : Membership}
    {groupKey memberKey : String} {value : PUnit}
    (connected :
      tables.connectStored edge groupKey memberKey = .ok (value, after)) :
    Change tables after := by
  obtain ⟨group, member, rfl⟩ := connectStored_eq_ok_iff.mp connected
  exact .upsertEdge tables _ ⟨holds_iff.mp group, holds_iff.mp member⟩

theorem upsertCopying_eq_ok_iff {row : EntityRow} {source : String}
    {value : PUnit} :
    tables.upsertCopying row source = .ok (value, after) ↔
      tables.holds .user (fold source) = true ∧
        after = (tables.upsertEntity row).copyEdges (.text MemberKind.user.name)
          (.text (fold source)) row.key := by
  unfold upsertCopying
  simp only [Answer.bind_eq_ok_iff, requireEntity_eq_ok_iff]
  constructor
  · rintro ⟨_, stored, equality⟩
    cases equality
    exact ⟨stored, rfl⟩
  · rintro ⟨stored, rfl⟩
    exact ⟨⟨⟩, stored, rfl⟩

end Tables

/-- A step of a replica that is kept in step: a committed change, or that it
forgets. -/
inductive Replica.Step : Replica → Replica → Prop
  | commit (replica : Replica) (tables : Tables)
      (change : Tables.Change replica.tables tables) :
      Step replica { replica with
        tables := tables, generation := replica.generation + 1 }
  | forget (replica : Replica) :
      Step replica { replica with memo := replica.memo.clear }

namespace Replica

open CachedDirectory.Action

/-- Whether the replica only takes steps along an action. -/
abbrev TakesSteps {α : Type} (action : Action Replica α) : Prop :=
  Follows id Step action

theorem openTables_of_open {replica : Replica}
    (opened : replica.isOpen = true) :
    replica.openTables = .ok replica.tables := by
  rw [openTables, if_pos opened]

theorem openTables_of_closed {replica : Replica}
    (closed : replica.isOpen = false) :
    replica.openTables = .error closedStore := by
  rw [openTables, closed]
  rfl

theorem isOpen_of_openTables {replica : Replica} {tables : Tables}
    (opened : replica.openTables = .ok tables) : replica.isOpen = true := by
  by_contra closed
  rw [openTables_of_closed (Bool.eq_false_iff.mpr closed)] at opened
  cases opened

theorem tables_of_readTables {replica : Replica} {tables : Tables}
    (readable : replica.readTables = .ok tables) : tables = replica.tables := by
  obtain ⟨found, opened, visible⟩ := Answer.bind_eq_ok_iff.mp readable
  unfold openTables at opened
  split at opened
  · cases opened
    split at visible
    · cases visible
    · cases visible
      rfl
  · cases opened

theorem run_write_of_open {α : Type} {change : Tables → Answer (α × Tables)}
    {replica : Replica} (opened : replica.isOpen = true) :
    (write change).run replica =
      match change replica.tables with
      | .ok (value, tables) =>
          (.ok value,
            { replica with
              tables := tables, generation := replica.generation + 1 })
      | .error error => (.error error, replica) := by
  unfold write
  simp only [openTables_of_open opened]
  rfl

theorem run_write_of_closed {α : Type} {change : Tables → Answer (α × Tables)}
    {replica : Replica} (closed : replica.isOpen = false) :
    (write change).run replica = (.error closedStore, replica) := by
  unfold write
  simp only [openTables_of_closed closed]
  rfl

/-- A change is refused and nothing is done, or it is committed. -/
theorem run_write_cases {α : Type} (change : Tables → Answer (α × Tables))
    (replica : Replica) :
    (∃ error, (write change).run replica = (.error error, replica)) ∨
      ∃ value tables,
        replica.isOpen = true ∧ change replica.tables = .ok (value, tables) ∧
        (write change).run replica =
          (.ok value,
              { replica with
                  tables :=
                      tables, generation := replica.generation + 1 }) := by
  rcases Bool.eq_false_or_eq_true replica.isOpen with opened | closed
  · rw [run_write_of_open opened]
    rcases result : change replica.tables with error | ⟨value, tables⟩
    · exact Or.inl ⟨error, rfl⟩
    · exact Or.inr ⟨value, tables, opened, rfl, rfl⟩
  · exact Or.inl ⟨closedStore, run_write_of_closed closed⟩

theorem replica_of_write_error {α : Type}
    {change : Tables → Answer (α × Tables)} {replica after : Replica}
    {error : DirectoryError}
    (failed : (write change).run replica = (.error error, after)) :
    after = replica := by
  rcases run_write_cases change replica with ⟨_, ran⟩ | ⟨_, _, _, _, ran⟩
  · rw [ran] at failed
    cases failed
    rfl
  · rw [ran] at failed
    cases failed

theorem run_write_eq_ok_iff {α : Type} {change : Tables → Answer (α × Tables)}
    {replica after : Replica} {value : α} :
    (write change).run replica = (.ok value, after) ↔
      replica.isOpen = true ∧ ∃ tables,
        change replica.tables = .ok (value, tables) ∧
        after = { replica with
            tables := tables, generation := replica.generation + 1 } := by
  rcases Bool.eq_false_or_eq_true replica.isOpen with opened | closed
  · rw [run_write_of_open opened]
    rcases result : change replica.tables with error | ⟨given, tables⟩
    · simp
    · simp [opened, eq_comm]
  · rw [run_write_of_closed closed]
    simp [closed]

theorem run_update_eq_ok_iff {change : Tables → Tables}
    {replica after : Replica} {value : PUnit} :
    (update change).run replica = (.ok value, after) ↔
      replica.isOpen = true ∧ after =
        { replica with
          tables := change replica.tables
          generation := replica.generation + 1 } := by
  rw [update, run_write_eq_ok_iff]
  simp

theorem run_reset_eq_ok {replica after : Replica} {value : PUnit}
    (result : reset.run replica = (.ok value, after)) :
    replica.isOpen = true ∧ after =
      { replica with
        tables := replica.tables.emptied
        generation := replica.generation + 1
        memo := replica.memo.clear } := by
  rw [reset] at result
  obtain ⟨_, emptied, empties, forgets⟩ := Action.run_bind_eq_ok_iff.mp result
  obtain ⟨opened, rfl⟩ := run_update_eq_ok_iff.mp empties
  cases forgets
  exact ⟨opened, rfl⟩

theorem takesSteps_write {α : Type} {change : Tables → Answer (α × Tables)}
    (changes : ∀ tables value after, change tables = .ok (value, after) →
      Tables.Change tables after) :
    TakesSteps (write change) := by
  intro replica
  rcases run_write_cases change replica with
      ⟨_, ran⟩ | ⟨value, tables, _, changed, ran⟩
  · rw [ran]
  · rw [ran]
    exact .single (.commit replica tables (changes _ value tables changed))

theorem takesSteps_update {change : Tables → Tables}
    (changes : ∀ tables, Tables.Change tables (change tables)) :
    TakesSteps (update change) := by
  apply takesSteps_write
  intro tables value after equality
  cases equality
  exact changes tables

theorem takesSteps_dropCounted {drop : Tables → Tables}
    (changes : ∀ tables, Tables.Change tables (drop tables)) :
    TakesSteps (dropCounted drop) := by
  apply takesSteps_write
  intro tables value after equality
  cases equality
  exact changes tables

theorem takesSteps_reset : TakesSteps reset := by
  apply Follows.bind
  · exact takesSteps_update .empty
  · intro _ replica
    exact .single (.forget replica)

theorem takesSteps_storeRow {row : EntityRow} (record : row.IsRecord) :
    TakesSteps (storeRow row) :=
  takesSteps_update fun tables => .upsertEntity tables row record

/-- Records are stored one by one, and each row that is written is that of a
record. -/
theorem takesSteps_storeAll {α : Type} {rowOf : α → Answer EntityRow}
    (isRecord : ∀ record row, rowOf record = .ok row → row.IsRecord)
    (records : List α) :
    TakesSteps (storeAll rowOf records) := by
  induction records with
  | nil => exact follows_pure 0
  | cons record rest inductionHypothesis =>
      apply follows_ofAnswer_bind
      intro row stored
      apply Follows.bind (takesSteps_storeRow (isRecord record row stored))
      intro _
      exact inductionHypothesis.bind fun stored => follows_pure (stored + 1)

theorem takesSteps_upsertMembership (edge : Membership) :
    TakesSteps (upsertMembership edge) := by
  apply follows_ofAnswer_bind
  intro groupKey _
  apply follows_ofAnswer_bind
  intro memberKey _
  exact takesSteps_write fun _ _ _ connected =>
    Tables.change_of_connectStored connected

theorem takesSteps_upsertCopying {user : User} {row : EntityRow}
    (stored : EntityRow.ofUser? user = .ok row) (source : String) :
    TakesSteps (write (Tables.upsertCopying row source)) := by
  apply takesSteps_write
  intro tables _ after copied
  obtain ⟨named, rfl⟩ := EntityRow.ofUser?_eq_ok_iff.mp stored
  obtain ⟨_, rfl⟩ := Tables.upsertCopying_eq_ok_iff.mp copied
  exact .copy tables user (fold source) named

end Replica

namespace Session

open CachedDirectory.Action

variable {α β : Type}

/-- Whether the replica of a session only takes steps along an action. -/
abbrev TakesSteps (action : Action (Session α) β) : Prop :=
  Follows (fun session : Session α => session.replica) Replica.Step action

theorem run_onReplica {action : Action Replica β} {session : Session α}
    {answer : Answer β} {after : Replica}
    (result : action.run session.replica = (answer, after)) :
    (onReplica action).run session = (answer, ⟨after, session.authority⟩) := by
  show ((action.run session.replica).1,
    Session.mk (action.run session.replica).2 _) = _
  rw [result]

theorem takesSteps_onReplica {action : Action Replica β}
    (steps : Replica.TakesSteps action) :
    TakesSteps (onReplica action : Action (Session α) β) :=
  fun session => steps session.replica

/-- Questions to the authority leave the replica as it is. -/
theorem takesSteps_ask (question : Action α β) : TakesSteps (ask question) :=
  fun _ => .refl

/-- A loop over pages goes through the steps of its pages, however many rounds
it takes. -/
theorem steps_pageThrough {page : Nat → Action (Session α) Nat}
    (steps : ∀ position, TakesSteps (page position))
    (length rounds position : Nat) (session : Session α) :
    ReflTransGen Replica.Step session.replica
      (pageThrough page length rounds position session).2.replica := by
  induction rounds generalizing position session with
  | zero => exact .refl
  | succ rounds inductionHypothesis =>
      unfold pageThrough
      have first := steps position session
      rcases result : (page position).run session with ⟨answer, after⟩
      rw [result] at first
      cases answer with
      | ok taken =>
          dsimp only
          split
          · exact first
          · exact first.trans (inductionHypothesis (position + taken) after)
      | error error => exact first

variable [Authority α]

theorem takesSteps_fetchGroup (id : String) :
    TakesSteps (fetchGroup id : Action (Session α) Group) := by
  apply (takesSteps_ask _).bind
  rintro (_ | group)
  · exact follows_fail _
  · exact follows_pure group

theorem takesSteps_fetchUser (id : String) :
    TakesSteps (fetchUser id : Action (Session α) User) := by
  apply (takesSteps_ask _).bind
  rintro (_ | user)
  · exact follows_fail _
  · exact follows_pure user

theorem takesSteps_upsertGroup (id : String) :
    TakesSteps (upsertGroup id : Action (Session α) PUnit) := by
  apply (takesSteps_fetchGroup id).bind
  intro group
  apply follows_ofAnswer_bind
  intro row stored
  exact takesSteps_onReplica
    (Replica.takesSteps_storeRow (EntityRow.isRecord_of_ofGroup? stored))

theorem takesSteps_upsertUser (id : String) :
    TakesSteps (upsertUser id : Action (Session α) PUnit) := by
  apply (takesSteps_fetchUser id).bind
  intro user
  apply follows_ofAnswer_bind
  intro row stored
  exact takesSteps_onReplica
    (Replica.takesSteps_storeRow (EntityRow.isRecord_of_ofUser? stored))

theorem takesSteps_upsertUserCopyingGroups (id source : String) :
    TakesSteps (upsertUserCopyingGroups id source :
        Action (Session α) PUnit) := by
  apply (takesSteps_fetchUser id).bind
  intro user
  apply follows_ofAnswer_bind
  intro row stored
  exact takesSteps_onReplica (Replica.takesSteps_upsertCopying stored source)

theorem takesSteps_upsertGroupsPage (length position : Nat) :
    TakesSteps (upsertGroupsPage length position : Action (Session α) Nat) := by
  unfold upsertGroupsPage
  split
  · exact follows_pure 0
  · exact (takesSteps_ask _).bind fun groups =>
      takesSteps_onReplica (Replica.takesSteps_storeAll
        (fun _ _ stored => EntityRow.isRecord_of_ofGroup? stored)
          (groups.take length))

theorem takesSteps_upsertUsersPage (length position : Nat) :
    TakesSteps (upsertUsersPage length position : Action (Session α) Nat) := by
  unfold upsertUsersPage
  split
  · exact follows_pure 0
  · exact (takesSteps_ask _).bind fun users =>
      takesSteps_onReplica (Replica.takesSteps_storeAll
        (fun _ _ stored => EntityRow.isRecord_of_ofUser? stored)
          (users.take length))

end Session

namespace SyncCall

open Session

variable {α β : Type}

theorem steps_once {reply : β → SyncReply} {action : Action (Session α) β}
    (steps : TakesSteps action) (session : Session α) :
    ReflTransGen Replica.Step session.replica
        (once reply action session).2.replica :=
  steps session

theorem steps_withReplica {reply : β → SyncReply} {action : Action Replica β}
    (steps : Replica.TakesSteps action) (session : Session α) :
    ReflTransGen Replica.Step session.replica
        (withReplica reply action session).2.replica :=
  steps session.replica

/-- The replica takes steps along every call, whatever its authority answers. -/
theorem steps_run [Authority α] (session : Session α) (call : SyncCall) :
    ReflTransGen Replica.Step session.replica (call.run session).2.replica := by
  cases call with
  | requireReset => exact steps_withReplica (Action.follows_observe _) session
  | markResetRequired =>
      exact steps_withReplica (Replica.takesSteps_update fun _ => .setState _ _)
        session
  | reset => exact steps_withReplica Replica.takesSteps_reset session
  | markSynchronized =>
      exact steps_withReplica (Replica.takesSteps_update fun _ => .setState _ _)
        session
  | upsertGroup id => exact steps_once (takesSteps_upsertGroup id) session
  | upsertGroupsPage position length =>
      exact steps_once (takesSteps_upsertGroupsPage length position) session
  | upsertAllGroups =>
      exact steps_pageThrough
        (takesSteps_upsertGroupsPage session.replica.pageSize)
        session.replica.pageSize session.rounds 0 session
  | upsertUser id => exact steps_once (takesSteps_upsertUser id) session
  | upsertUserCopyingGroups id source =>
      exact steps_once (takesSteps_upsertUserCopyingGroups id source) session
  | upsertUsersPage position length =>
      exact steps_once (takesSteps_upsertUsersPage length position) session
  | upsertAllUsers =>
      exact steps_pageThrough
        (takesSteps_upsertUsersPage session.replica.pageSize)
        session.replica.pageSize session.rounds 0 session
  | upsertMembership edge =>
      exact steps_withReplica (Replica.takesSteps_upsertMembership edge) session
  | dropGroup id =>
      exact steps_withReplica
        (Replica.takesSteps_update fun _ => .dropGroup _ _) session
  | dropAllGroups =>
      exact steps_withReplica (Replica.takesSteps_dropCounted .dropGroups)
        session
  | dropUser id =>
      exact steps_withReplica (Replica.takesSteps_update fun _ => .dropUser _ _)
        session
  | dropAllUsers =>
      exact steps_withReplica (Replica.takesSteps_dropCounted .dropUsers)
        session
  | dropMembership edge =>
      exact steps_withReplica (Replica.takesSteps_update fun _ => .dropEdge _ _)
        session
  | memberships => exact steps_withReplica (Action.follows_observe _) session

end SyncCall

namespace Resync

open Session

variable {α β : Type}

theorem steps_after {action : Action (Session α) β} (steps : TakesSteps action)
    (resync : Resync) (next : β → Resync) (session : Session α) :
    ReflTransGen Replica.Step session.replica
      (resync.after action next session).2.replica := by
  have taken := steps session
  unfold after
  rcases result : action.run session with ⟨answer, changed⟩
  rw [result] at taken
  cases answer <;> exact taken

variable [Authority α]

/-- The replica takes steps along every step of a resynchronization. -/
theorem steps_step (resync : Resync) (session : Session α) :
    ReflTransGen Replica.Step session.replica
        (resync.step session).2.replica := by
  unfold step
  split
  · exact steps_after (takesSteps_onReplica (Action.follows_observe _))
      _ _ session
  · exact steps_after (takesSteps_onReplica Replica.takesSteps_reset)
      _ _ session
  · exact steps_after (takesSteps_upsertGroupsPage _ _) _ _ session
  · exact steps_after (takesSteps_upsertUsersPage _ _) _ _ session
  · exact steps_after (takesSteps_ask _) _ _ session
  · rename_i edge rest following _
    have taken :=
      takesSteps_onReplica (α := α) (Replica.takesSteps_upsertMembership edge)
        session
    unfold store
    rcases result : (onReplica (Replica.upsertMembership edge)).run session with
        ⟨answer, changed⟩
    rw [result] at taken
    dsimp only
    split <;> simp_all
  · exact steps_after
      (takesSteps_onReplica (Replica.takesSteps_update fun _ => .setState _ _))
      _ _ session
  · exact .refl

/-- The replica takes steps along a whole resynchronization. -/
theorem steps_run (steps : Nat) (resync : Resync) (session : Session α) :
    ReflTransGen Replica.Step session.replica
        (run steps resync session).2.replica := by
  induction steps generalizing resync session with
  | zero => exact .refl
  | succ steps inductionHypothesis =>
      unfold run
      split
      · exact .refl
      · exact (resync.steps_step session).trans (inductionHypothesis _ _)

end Resync

end CachedDirectory
