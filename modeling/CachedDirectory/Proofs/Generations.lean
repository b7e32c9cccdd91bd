import CachedDirectory.Proofs.PendingResets
import CachedDirectory.Proofs.Runs

/-!
# Generations

The generation of a replica is a version of its tables. Reading leaves both as
they are; a call that makes one change raises the generation by one, or it fails
and changes nothing; and everything else is made of such changes. So in the
course of operations the tables only differ where the generation does.

There is one exception. Under read access no statement may be run as an update,
but every statement may be run for its rows, and one that deletes or writes does
so then as well. Its change is committed with the block and is not counted.
-/

namespace CachedDirectory

open Relation

/-! ## Blocks -/

namespace Block

theorem replica_of_failed {block : Block} {replica after : Replica}
    {error : DirectoryError}
    (failure : block.run.run replica = (.error error, after)) :
    after = replica := by
  unfold run at failure
  dsimp only at failure
  split at failure
  · cases failure
  · cases failure
    rfl

theorem generation_run_read (statements : List BlockStatement) (givesUp : Bool)
    (replica : Replica) :
    ((run ⟨.replica, .read, statements, givesUp⟩).run replica).2.generation =
      replica.generation := by
  unfold run
  dsimp only
  split <;> rfl

end Block

/-! ## Actions that make one change -/

namespace Action

variable {σ α β : Type} {view : σ → Replica}

/-- Whether an action leaves the replica as it is. -/
def Keeps (view : σ → Replica) (action : Action σ α) : Prop :=
  ∀ state, view (action.run state).2 = view state

/-- Whether an action either fails and leaves the replica as it is, or raises
its generation by one. -/
structure CommitsOnce (view : σ → Replica) (action : Action σ α) : Prop where
  failed :
    ∀ state error after,
      action.run state = (.error error, after) → view after = view state
  done : ∀ state value after, action.run state = (.ok value, after) →
    (view after).generation = (view state).generation + 1

theorem keeps_ofAnswer (answer : Answer α) : Keeps view (ofAnswer answer) :=
  fun _ => rfl

theorem Keeps.bind {action : Action σ α} {next : α → Action σ β}
    (keeps : Keeps view action) (alsoKeeps : ∀ value, Keeps view (next value)) :
    Keeps view (action >>= next) := by
  intro state
  have first := keeps state
  rcases result : action.run state with ⟨answer, between⟩
  rw [result] at first
  cases answer with
  | ok value =>
      rw [run_bind_ok result]
      exact (alsoKeeps value between).trans first
  | error error =>
      rw [run_bind_error result]
      exact first

/-- What is asked before a change is made does not count. -/
theorem Keeps.bind_commitsOnce {action : Action σ α} {next : α → Action σ β}
    (keeps : Keeps view action)
    (commits : ∀ value, CommitsOnce view (next value)) :
    CommitsOnce view (action >>= next) where
  failed := by
    intro state error after failure
    have first := keeps state
    rcases result : action.run state with ⟨answer, between⟩
    rw [result] at first
    cases answer with
    | ok value =>
        rw [run_bind_ok result] at failure
        exact ((commits value).failed between error after failure).trans first
    | error error =>
        rw [run_bind_error result] at failure
        cases failure
        exact first
  done := by
    intro state value after success
    obtain ⟨given, between, asked, made⟩ := run_bind_eq_ok_iff.mp success
    have first := keeps state
    rw [asked] at first
    rw [(commits given).done between value after made, first]

end Action

namespace Replica

open CachedDirectory.Action

theorem commitsOnce_write {α : Type} (change : Tables → Answer (α × Tables)) :
    CommitsOnce id (write change) where
  failed _ _ _ failure := replica_of_write_error failure
  done := by
    intro replica value after success
    obtain ⟨_, tables, _, rfl⟩ := run_write_eq_ok_iff.mp success
    rfl

theorem commitsOnce_reset : CommitsOnce id reset where
  failed := by
    intro replica error after failure
    rcases Bool.eq_false_or_eq_true replica.isOpen with opened | closed
    · rw [run_reset_of_open opened] at failure
      cases failure
    · rw [run_reset_of_closed closed] at failure
      cases failure
      rfl
  done := by
    intro replica value after success
    obtain ⟨_, rfl⟩ := run_reset_eq_ok success
    rfl

theorem commitsOnce_upsertMembership (edge : Membership) :
    CommitsOnce id (upsertMembership edge) :=
  (keeps_ofAnswer _).bind_commitsOnce fun _ =>
    (keeps_ofAnswer _).bind_commitsOnce fun _ => commitsOnce_write _

end Replica

namespace Session

open CachedDirectory.Action

variable {α β : Type}

/-- Whether an action makes one change of the replica of a session. -/
abbrev CommitsOnce (action : Action (Session α) β) : Prop :=
  Action.CommitsOnce (fun session => session.replica) action

/-- Whether an action leaves the replica of a session as it is. -/
abbrev Keeps (action : Action (Session α) β) : Prop :=
  Action.Keeps (fun session => session.replica) action

theorem commitsOnce_onReplica {action : Action Replica β}
    (commits : Action.CommitsOnce id action) :
    CommitsOnce (onReplica action : Action (Session α) β) where
  failed := by
    intro session error after failure
    rcases result : action.run session.replica with ⟨answer, changed⟩
    rw [run_onReplica result] at failure
    cases failure
    exact commits.failed session.replica error changed result
  done := by
    intro session value after success
    rcases result : action.run session.replica with ⟨answer, changed⟩
    rw [run_onReplica result] at success
    cases success
    exact commits.done session.replica value changed result

theorem keeps_ask (question : Action α β) : Keeps (ask question) :=
  fun _ => rfl

variable [Authority α]

theorem keeps_fetchGroup (id : String) :
    Keeps (fetchGroup id : Action (Session α) Group) := by
  apply (keeps_ask _).bind
  rintro (_ | group)
  · exact keeps_ofAnswer _
  · exact keeps_ofAnswer (.ok group)

theorem keeps_fetchUser (id : String) :
    Keeps (fetchUser id : Action (Session α) User) := by
  apply (keeps_ask _).bind
  rintro (_ | user)
  · exact keeps_ofAnswer _
  · exact keeps_ofAnswer (.ok user)

theorem commitsOnce_upsertGroup (id : String) :
    CommitsOnce (upsertGroup id : Action (Session α) PUnit) :=
  (keeps_fetchGroup id).bind_commitsOnce fun _ =>
    (keeps_ofAnswer _).bind_commitsOnce fun _ =>
      commitsOnce_onReplica (Replica.commitsOnce_write _)

theorem commitsOnce_upsertUser (id : String) :
    CommitsOnce (upsertUser id : Action (Session α) PUnit) :=
  (keeps_fetchUser id).bind_commitsOnce fun _ =>
    (keeps_ofAnswer _).bind_commitsOnce fun _ =>
      commitsOnce_onReplica (Replica.commitsOnce_write _)

theorem commitsOnce_upsertUserCopyingGroups (id source : String) :
    CommitsOnce (upsertUserCopyingGroups id source :
        Action (Session α) PUnit) :=
  (keeps_fetchUser id).bind_commitsOnce fun _ =>
    (keeps_ofAnswer _).bind_commitsOnce fun _ =>
      commitsOnce_onReplica (Replica.commitsOnce_write _)

end Session

/-! ## Calls -/

namespace SyncCall

open Session

/-- Whether a call only reads. -/
def onlyReads : SyncCall → Bool
  | requireReset | memberships => true
  | markResetRequired | reset | markSynchronized | upsertGroup _
  | upsertGroupsPage _ _ | upsertAllGroups | upsertUser _
  | upsertUserCopyingGroups _ _ | upsertUsersPage _ _ | upsertAllUsers
  | upsertMembership _ | dropGroup _ | dropAllGroups | dropUser _ | dropAllUsers
  | dropMembership _ => false

/-- Whether a call makes one change: it neither only reads nor goes through
pages. -/
def changesOnce : SyncCall → Bool
  | markResetRequired | reset | markSynchronized | upsertGroup _ | upsertUser _
  | upsertUserCopyingGroups _ _ | upsertMembership _ | dropGroup _
  | dropAllGroups | dropUser _ | dropAllUsers | dropMembership _ => true
  | requireReset | memberships | upsertGroupsPage _ _ | upsertAllGroups
  | upsertUsersPage _ _ | upsertAllUsers => false

variable {α β : Type}

/-- Whether a call was answered and made one change, or failed and left the
replica as it was. -/
structure ChangedOnce (session : Session α)
    (result : Option (Answer SyncReply) × Session α) : Prop where
  answered : ∃ answer, result.1 = some answer
  failed :
    ∀ error, result.1 = some (.error error) → result.2.replica = session.replica
  done : ∀ reply, result.1 = some (.ok reply) →
    result.2.replica.generation = session.replica.generation + 1

theorem changedOnce_once {reply : β → SyncReply} {action : Action (Session α) β}
    (commits : CommitsOnce action) (session : Session α) :
    ChangedOnce session (once reply action session) := by
  unfold once
  rcases result : action.run session with ⟨answer, after⟩
  refine ⟨⟨_, rfl⟩, ?_, ?_⟩
  · intro error failure
    cases answer with
    | ok value => cases failure
    | error refused => exact commits.failed session refused after result
  · intro given success
    cases answer with
    | ok value => exact commits.done session value after result
    | error refused => cases success

theorem changedOnce_withReplica {reply : β → SyncReply}
    {action : Action Replica β} (commits : Action.CommitsOnce id action)
    (session : Session α) :
    ChangedOnce session (withReplica reply action session) :=
  changedOnce_once (commitsOnce_onReplica commits) session

variable [Authority α]

theorem run_of_onlyReads {call : SyncCall} (reads : call.onlyReads = true)
    (session : Session α) :
    (call.run session).2 = session := by
  cases call with
  | requireReset | memberships => rfl
  | _ => cases reads

theorem changedOnce_run {call : SyncCall} (changes : call.changesOnce = true)
    (session : Session α) : ChangedOnce session (call.run session) := by
  cases call with
  | markResetRequired | markSynchronized | dropGroup | dropAllGroups | dropUser
  | dropAllUsers | dropMembership =>
      exact changedOnce_withReplica (Replica.commitsOnce_write _) session
  | reset => exact changedOnce_withReplica Replica.commitsOnce_reset session
  | upsertGroup id =>
      exact changedOnce_once (commitsOnce_upsertGroup id) session
  | upsertUser id => exact changedOnce_once (commitsOnce_upsertUser id) session
  | upsertUserCopyingGroups id source =>
      exact changedOnce_once (commitsOnce_upsertUserCopyingGroups id source)
        session
  | upsertMembership edge =>
      exact changedOnce_withReplica (Replica.commitsOnce_upsertMembership edge)
        session
  | requireReset | memberships | upsertGroupsPage | upsertAllGroups
  | upsertUsersPage | upsertAllUsers => cases changes

end SyncCall

theorem Block.commitsOnce_run (statements : List BlockStatement)
    (givesUp : Bool) :
    Action.CommitsOnce id
      (Block.run ⟨.replica, .write, statements, givesUp⟩) where
  failed := fun _ _ _ failure => Block.replica_of_failed failure
  done := by
    intro replica value after success
    unfold Block.run at success
    dsimp only at success
    split at success
    · cases success
      rfl
    · cases success

/-! ## Runs of operations -/

namespace Replica

variable {before between after : Replica}

/-- Whether the tables of a later replica differ only if its generation is
higher. -/
structure Precedes (before after : Replica) : Prop where
  generation_le : before.generation ≤ after.generation
  tables_eq :
    before.generation = after.generation → before.tables = after.tables

theorem Precedes.refl (replica : Replica) : Precedes replica replica :=
  ⟨Nat.le_refl _, fun _ => rfl⟩

/-- Generations in between are equal if the first and the last one are. -/
theorem Precedes.trans (first : Precedes before between)
    (second : Precedes between after) : Precedes before after where
  generation_le := Nat.le_trans first.generation_le second.generation_le
  tables_eq := by
    intro same
    have rises := first.generation_le
    have alsoRises := second.generation_le
    have sameFirst : before.generation = between.generation := by omega
    have sameSecond : between.generation = after.generation := by omega
    exact (first.tables_eq sameFirst).trans (second.tables_eq sameSecond)

theorem precedes_of_higher (higher : after.generation = before.generation + 1) :
    Precedes before after where
  generation_le := by omega
  tables_eq := by
    intro same
    omega

theorem Move.precedes (move : Move before after) : Precedes before after := by
  cases move with
  | step _ step =>
      cases step with
      | commit tables _ => exact precedes_of_higher rfl
      | forget => exact ⟨Nat.le_refl _, fun _ => rfl⟩
  | read reading =>
      obtain ⟨memo, same⟩ := reading.exists_memo before
      rw [same]
      exact ⟨Nat.le_refl _, fun _ => rfl⟩
  | pass => exact ⟨Nat.le_refl _, fun _ => rfl⟩

theorem Precedes.of_commitsOnce {σ α : Type} {view : σ → Replica}
    {action : Action σ α} (commits : Action.CommitsOnce view action)
    (state : σ) : Precedes (view state) (view (action.run state).2) := by
  rcases result : action.run state with ⟨answer, after⟩
  cases answer with
  | ok value => exact precedes_of_higher (commits.done state value after result)
  | error error =>
      rw [commits.failed state error after result]
      exact .refl (view state)

theorem Turn.precedes {closes : Bool} (turn : Turn closes before after) :
    Precedes before after := by
  cases turn with
  | moves moves =>
      induction moves with
      | refl => exact .refl before
      | tail _ move inductionHypothesis =>
          exact inductionHypothesis.trans move.precedes
  | close => exact ⟨Nat.le_refl _, fun _ => rfl⟩
  | block _ statements givesUp =>
      exact .of_commitsOnce (Block.commitsOnce_run statements givesUp) before

end Replica

namespace Operation

variable {α : Type} [Authority α]

theorem precedes_runAll {operations : List (Operation α)}
    (counted : ∀ operation ∈ operations, operation.isCounted = true)
    (session : Session α) :
    Replica.Precedes session.replica (runAll operations session).replica := by
  induction operations generalizing session with
  | nil => exact .refl session.replica
  | cons operation rest inductionHypothesis =>
      have first := turn_run (counted operation List.mem_cons_self) session
      have later := inductionHypothesis
        (fun other member =>
          counted other (List.mem_cons_of_mem operation member))
        (operation.run session)
      exact first.precedes.trans later

end Operation

namespace Session

variable {α : Type} [Authority α]

/-- Whether the generation is a version of the tables of a session, now and in
the course of operations. -/
structure IsVersioned (session : Session α) : Prop where
  /-- Questions leave the tables and the generation as they are. -/
  asked : ∀ reading : Reading,
    (reading.run session.replica).tables = session.replica.tables ∧
      (reading.run session.replica).generation = session.replica.generation
  /-- A call that only reads changes nothing. -/
  called : ∀ call : SyncCall, call.onlyReads = true →
    (call.run session).2 = session
  /-- A call that makes one change raises the generation by one, or it fails and
  changes nothing. -/
  changed : ∀ call : SyncCall, call.changesOnce = true →
    SyncCall.ChangedOnce session (call.run session)
  /-- A block that fails changes nothing. -/
  failed : ∀ block : Block, ∀ error after,
    block.run.run session.replica = (.error error, after) →
      after = session.replica
  /-- A block under write access raises the generation by one. -/
  written : ∀ statements givesUp outcomes after,
    (Block.run ⟨.replica, .write, statements, givesUp⟩).run session.replica =
        (.ok outcomes, after) →
      after.generation = session.replica.generation + 1
  /-- A block under read access leaves the generation as it is, and all else if
  its statements only read. -/
  read : ∀ statements givesUp,
    let after :=
      ((Block.run ⟨.replica, .read, statements, givesUp⟩).run session.replica).2
    after.generation = session.replica.generation ∧
      (statements.all (·.onlyReads) = true → after = session.replica)
  /-- Between any two moments the tables have changed only if the generation has
  risen. -/
  runs : ∀ earlier later : List (Operation α),
    (∀ operation ∈ later, operation.isCounted = true) →
      let before := Operation.runAll earlier session
      Replica.Precedes before.replica (Operation.runAll later before).replica

/-- The generation is a version of the tables. Reading leaves both as they are,
and so does what fails. What makes one change raises the generation by one.
Between any two moments in the course of operations the tables have changed only
if the generation has risen, unless a block under read access ran a statement
that does not only read. -/
theorem generation_is_version (session : Session α) : session.IsVersioned where
  asked reading := by
    obtain ⟨memo, same⟩ := reading.exists_memo session.replica
    rw [same]
    exact ⟨rfl, rfl⟩
  called call reads := SyncCall.run_of_onlyReads reads session
  changed call changes := SyncCall.changedOnce_run changes session
  failed block error after failure := Block.replica_of_failed failure
  written statements givesUp outcomes after success :=
    (Block.commitsOnce_run statements givesUp).done session.replica outcomes
      after success
  read statements givesUp := by
    refine ⟨Block.generation_run_read statements givesUp session.replica, ?_⟩
    intro reads
    exact Block.replica_of_onlyReads (List.all_eq_true.mp reads) givesUp
      session.replica
  runs earlier later counted :=
    Operation.precedes_runAll counted (Operation.runAll earlier session)

/-- A user that the authority does not know is not copied, one that it knows is,
and a block that counts the users does not change what is stored. -/
theorem generation_is_version_sample :
    let session : Session Roster :=
      ⟨Replica.filled, RosterEdit.applyAll {} Roster.sample⟩
    let missed := (SyncCall.upsertUser "Grace").run session
    let copied := (SyncCall.upsertUser "ADA").run session
    let looks : List (Operation Roster) :=
      [.read (.count .user),
        .readBlock [⟨"entity.count", .scalar, [("entity_type", .text "USER")]⟩]
          false]
    missed.1 = some (.error (.notFound .user "Grace")) ∧
      missed.2.replica = session.replica ∧
      copied.1 = some (.ok .done) ∧
      copied.2.replica.generation = session.replica.generation + 1 ∧
      (∀ operation ∈ looks, operation.isCounted = true) ∧
      (Operation.runAll looks copied.2).replica.generation =
        copied.2.replica.generation ∧
      copied.2.replica.tables =
          (Operation.runAll looks copied.2).replica.tables := by
  intro session missed copied looks
  have versioned := generation_is_version session
  have missing : missed.1 = some (.error (.notFound .user "Grace")) := by
    decide +kernel
  have known : copied.1 = some (.ok .done) := by decide +kernel
  have counted :
    ∀ operation ∈ looks, operation.isCounted = true := by decide +kernel
  have level : (Operation.runAll looks copied.2).replica.generation =
      copied.2.replica.generation := by
    decide +kernel
  have precedes := versioned.runs [.call (.upsertUser "ADA")] looks counted
  exact ⟨missing,
    (versioned.changed (.upsertUser "Grace") rfl).failed _ missing,
    known, (versioned.changed (.upsertUser "ADA") rfl).done _ known, counted,
    level, precedes.tables_eq level.symm⟩

/-- All entities are deleted under read access, and the generation stays. -/
theorem deletion_under_read_is_uncounted :
    let roster :=
      RosterEdit.applyAll {} [.putUser ⟨"u", none, none, none, none, true, []⟩]
    let earlier : List (Operation Roster) :=
      [.call (.upsertUser "u"), .call .markSynchronized]
    let later : List (Operation Roster) :=
      [.readBlock [⟨"entity.delete_all", .rows, []⟩] false]
    let before := Operation.runAll earlier ⟨Replica.unfilled, roster⟩
    let after := Operation.runAll later before
    before.replica.generation = after.replica.generation ∧
      before.replica.tables ≠ after.replica.tables := by
  decide +kernel

end Session

end CachedDirectory
