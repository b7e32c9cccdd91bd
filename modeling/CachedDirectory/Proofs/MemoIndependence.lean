import CachedDirectory.Proofs.Actions
import CachedDirectory.Replica.Block
import CachedDirectory.Replica.Resync

/-!
# What does not depend on the memo

Two replicas that differ in nothing but what they remember answer every call
that keeps them in step alike, and afterwards they still differ in nothing else.
Such a call may forget what is remembered, but it never looks at it.
-/

namespace CachedDirectory

namespace Action

variable {σ α β : Type} {alike : σ → σ → Prop}

/-- Whether two outcomes have the same answer and leave states that are
alike. -/
def Agree (alike : σ → σ → Prop) (left right : β × σ) : Prop :=
  left.1 = right.1 ∧ alike left.2 right.2

/-- Whether an action answers states that are alike in the same way and leaves
them alike. -/
def Respects (alike : σ → σ → Prop) (action : Action σ α) : Prop :=
  ∀ left right,
    alike left right → Agree alike (action.run left) (action.run right)

theorem Respects.exists_run {action : Action σ α}
    (respects : Respects alike action) {left right : σ}
    (alikeBefore : alike left right) :
    ∃ answer leftAfter rightAfter,
      action.run left = (answer, leftAfter) ∧
        action.run right = (answer, rightAfter) ∧
        alike leftAfter rightAfter := by
  obtain ⟨sameAnswer, alikeAfter⟩ := respects left right alikeBefore
  exact ⟨_, _, (action.run right).2, rfl, Prod.ext sameAnswer.symm rfl,
    alikeAfter⟩

theorem respects_ofAnswer (answer : Answer α) :
    Respects alike (ofAnswer answer : Action σ α) :=
  fun _ _ alikeBefore => ⟨rfl, alikeBefore⟩

theorem respects_pure (value : α) : Respects alike (pure value : Action σ α) :=
  respects_ofAnswer (.ok value)

theorem respects_fail (error : DirectoryError) :
    Respects alike (fail error : Action σ α) :=
  respects_ofAnswer (.error error)

theorem respects_observe {answer : σ → Answer α}
    (same : ∀ left right, alike left right → answer left = answer right) :
    Respects alike (observe answer) :=
  fun left right alikeBefore => ⟨same left right alikeBefore, alikeBefore⟩

theorem Respects.bind {action : Action σ α} {next : α → Action σ β}
    (first : Respects alike action)
    (second : ∀ value, Respects alike (next value)) :
    Respects alike (action >>= next) := by
  intro left right alikeBefore
  obtain ⟨answer, leftAfter, rightAfter, leftRun, rightRun, alikeAfter⟩ :=
    first.exists_run alikeBefore
  cases answer with
  | ok value =>
      rw [run_bind_ok leftRun, run_bind_ok rightRun]
      exact second value leftAfter rightAfter alikeAfter
  | error error =>
      rw [run_bind_error leftRun, run_bind_error rightRun]
      exact ⟨rfl, alikeAfter⟩

/-- A loop over pages that are read alike is run alike, however many rounds it
takes. -/
theorem agree_pageThrough {page : Nat → Action σ Nat}
    (pages : ∀ position, Respects alike (page position))
    (length rounds position : Nat) {left right : σ}
    (alikeBefore : alike left right) :
    Agree alike (pageThrough page length rounds position left)
      (pageThrough page length rounds position right) := by
  induction rounds generalizing position left right with
  | zero => exact ⟨rfl, alikeBefore⟩
  | succ rounds inductionHypothesis =>
      obtain ⟨answer, leftAfter, rightAfter, leftRun, rightRun, alikeAfter⟩ :=
        (pages position).exists_run alikeBefore
      unfold pageThrough
      rw [leftRun, rightRun]
      cases answer with
      | error error => exact ⟨rfl, alikeAfter⟩
      | ok taken =>
          dsimp only
          split
          · exact ⟨rfl, alikeAfter⟩
          · exact inductionHypothesis (position + taken) alikeAfter

end Action

namespace Replica

open CachedDirectory.Action

/-- Whether two replicas differ at most in what they remember. -/
def Alike (left right : Replica) : Prop :=
  ∃ memo, right = { left with memo := memo }

/-- Whether an action neither looks at what is remembered nor brings in other
differences. -/
abbrev IgnoresMemo {α : Type} (action : Action Replica α) : Prop :=
  Respects Alike action

theorem ignoresMemo_write {α : Type} (change : Tables → Answer (α × Tables)) :
    IgnoresMemo (write change) := by
  rintro left _ ⟨memo, rfl⟩
  have same : openTables { left with memo := memo } = left.openTables := rfl
  unfold write
  dsimp only
  rw [same]
  rcases left.openTables >>= change with error | ⟨value, tables⟩
  · exact ⟨rfl, memo, rfl⟩
  · exact ⟨rfl, memo, rfl⟩

theorem ignoresMemo_update (change : Tables → Tables) :
    IgnoresMemo (update change) :=
  ignoresMemo_write _

theorem ignoresMemo_requireReset : IgnoresMemo requireReset := by
  apply respects_observe
  rintro left _ ⟨memo, rfl⟩
  rfl

theorem ignoresMemo_allMemberships : IgnoresMemo allMemberships := by
  apply respects_observe
  rintro left _ ⟨memo, rfl⟩
  rfl

/-- What is forgotten need not be the same. -/
theorem ignoresMemo_reset : IgnoresMemo reset := by
  apply (ignoresMemo_update _).bind
  rintro _ left _ ⟨memo, rfl⟩
  exact ⟨rfl, memo.clear, rfl⟩

theorem ignoresMemo_storeAll {α : Type} (rowOf : α → Answer EntityRow)
    (records : List α) :
    IgnoresMemo (storeAll rowOf records) := by
  induction records with
  | nil => exact respects_pure 0
  | cons record rest inductionHypothesis =>
      apply (respects_ofAnswer _).bind
      intro row
      apply (ignoresMemo_update _).bind
      intro _
      exact inductionHypothesis.bind fun stored => respects_pure (stored + 1)

theorem ignoresMemo_upsertMembership (edge : Membership) :
    IgnoresMemo (upsertMembership edge) := by
  apply (respects_ofAnswer _).bind
  intro groupKey
  apply (respects_ofAnswer _).bind
  intro memberKey
  exact ignoresMemo_write _

end Replica

/-- A block that changes the tables of a replica does not look at what it
remembers. -/
theorem Block.ignoresMemo_run (statements : List BlockStatement)
    (givesUp : Bool) :
    Replica.IgnoresMemo
        (Block.run ⟨.replica, .write, statements, givesUp⟩) := by
  rintro left _ ⟨memo, rfl⟩
  have same : Replica.openTables { left with memo := memo } = left.openTables :=
    rfl
  unfold run tables
  dsimp only
  rw [same]
  rcases left.openTables >>= outcomes _ left.dialect with
      error | ⟨value, tables⟩
  · exact ⟨rfl, memo, rfl⟩
  · exact ⟨rfl, memo, rfl⟩

namespace Session

open CachedDirectory.Action

variable {α β : Type}

/-- Whether two sessions differ at most in what their replicas remember. -/
def Alike (left right : Session α) : Prop :=
  left.replica.Alike right.replica ∧ left.authority = right.authority

/-- Whether an action neither looks at what is remembered nor brings in other
differences. -/
abbrev IgnoresMemo (action : Action (Session α) β) : Prop :=
  Respects Alike action

theorem ignoresMemo_onReplica {action : Action Replica β}
    (ignores : Replica.IgnoresMemo action) :
    IgnoresMemo (onReplica action : Action (Session α) β) := by
  intro left right alikeBefore
  obtain ⟨sameAnswer, alikeAfter⟩ := ignores _ _ alikeBefore.1
  exact ⟨sameAnswer, alikeAfter, alikeBefore.2⟩

/-- An authority is asked the same whatever is remembered. -/
theorem ignoresMemo_ask (question : Action α β) :
    IgnoresMemo (ask question) := by
  rintro ⟨replica, authority⟩ ⟨_, _⟩ ⟨⟨memo, rfl⟩, rfl⟩
  exact ⟨rfl, ⟨memo, rfl⟩, rfl⟩

variable [Authority α]

theorem ignoresMemo_fetchGroup (id : String) :
    IgnoresMemo (fetchGroup id : Action (Session α) Group) := by
  apply (ignoresMemo_ask _).bind
  rintro (_ | group)
  · exact respects_fail _
  · exact respects_pure group

theorem ignoresMemo_fetchUser (id : String) :
    IgnoresMemo (fetchUser id : Action (Session α) User) := by
  apply (ignoresMemo_ask _).bind
  rintro (_ | user)
  · exact respects_fail _
  · exact respects_pure user

theorem ignoresMemo_upsertGroup (id : String) :
    IgnoresMemo (upsertGroup id : Action (Session α) PUnit) := by
  apply (ignoresMemo_fetchGroup id).bind
  intro group
  apply (respects_ofAnswer _).bind
  intro row
  exact ignoresMemo_onReplica (Replica.ignoresMemo_update _)

theorem ignoresMemo_upsertUser (id : String) :
    IgnoresMemo (upsertUser id : Action (Session α) PUnit) := by
  apply (ignoresMemo_fetchUser id).bind
  intro user
  apply (respects_ofAnswer _).bind
  intro row
  exact ignoresMemo_onReplica (Replica.ignoresMemo_update _)

theorem ignoresMemo_upsertUserCopyingGroups (id source : String) :
    IgnoresMemo (upsertUserCopyingGroups id source :
        Action (Session α) PUnit) := by
  apply (ignoresMemo_fetchUser id).bind
  intro user
  apply (respects_ofAnswer _).bind
  intro row
  exact ignoresMemo_onReplica (Replica.ignoresMemo_write _)

theorem ignoresMemo_upsertGroupsPage (length position : Nat) :
    IgnoresMemo (upsertGroupsPage length position :
        Action (Session α) Nat) := by
  unfold upsertGroupsPage
  split
  · exact respects_pure 0
  · exact (ignoresMemo_ask _).bind fun _ =>
      ignoresMemo_onReplica (Replica.ignoresMemo_storeAll _ _)

theorem ignoresMemo_upsertUsersPage (length position : Nat) :
    IgnoresMemo (upsertUsersPage length position : Action (Session α) Nat) := by
  unfold upsertUsersPage
  split
  · exact respects_pure 0
  · exact (ignoresMemo_ask _).bind fun _ =>
      ignoresMemo_onReplica (Replica.ignoresMemo_storeAll _ _)

end Session

namespace SyncCall

open Session

variable {α β : Type}

theorem agree_once {reply : β → SyncReply} {action : Action (Session α) β}
    (ignores : IgnoresMemo action) {left right : Session α}
    (alikeBefore : left.Alike right) :
    Action.Agree Session.Alike (once reply action left)
        (once reply action right) := by
  obtain ⟨sameAnswer, alikeAfter⟩ := ignores left right alikeBefore
  exact ⟨congrArg (fun answer => some (Except.map reply answer)) sameAnswer,
    alikeAfter⟩

theorem agree_withReplica {reply : β → SyncReply} {action : Action Replica β}
    (ignores : Replica.IgnoresMemo action) {left right : Session α}
    (alikeBefore : left.Alike right) :
    Action.Agree Session.Alike (withReplica reply action left)
        (withReplica reply action right) :=
  agree_once (ignoresMemo_onReplica ignores) alikeBefore

variable [Authority α]

theorem agree_upsertAllGroups {left right : Session α}
    (alikeBefore : left.Alike right) :
    Action.Agree Session.Alike left.upsertAllGroups right.upsertAllGroups := by
  rcases left with ⟨replica, authority⟩
  rcases right with ⟨_, _⟩
  obtain ⟨⟨memo, rfl⟩, rfl⟩ := alikeBefore
  exact Action.agree_pageThrough (ignoresMemo_upsertGroupsPage _) _ _ _
    ⟨⟨memo, rfl⟩, rfl⟩

theorem agree_upsertAllUsers {left right : Session α}
    (alikeBefore : left.Alike right) :
    Action.Agree Session.Alike left.upsertAllUsers right.upsertAllUsers := by
  rcases left with ⟨replica, authority⟩
  rcases right with ⟨_, _⟩
  obtain ⟨⟨memo, rfl⟩, rfl⟩ := alikeBefore
  exact Action.agree_pageThrough (ignoresMemo_upsertUsersPage _) _ _ _
    ⟨⟨memo, rfl⟩, rfl⟩

/-- A call has the same reply whatever is remembered. -/
theorem agree_run (call : SyncCall) {left right : Session α}
    (alikeBefore : left.Alike right) :
    Action.Agree Session.Alike (call.run left) (call.run right) := by
  cases call with
  | requireReset =>
      exact agree_withReplica Replica.ignoresMemo_requireReset alikeBefore
  | markResetRequired =>
      exact agree_withReplica (Replica.ignoresMemo_update _) alikeBefore
  | reset => exact agree_withReplica Replica.ignoresMemo_reset alikeBefore
  | markSynchronized =>
      exact agree_withReplica (Replica.ignoresMemo_update _) alikeBefore
  | upsertGroup id => exact agree_once (ignoresMemo_upsertGroup id) alikeBefore
  | upsertGroupsPage position length =>
      exact agree_once (ignoresMemo_upsertGroupsPage length position)
        alikeBefore
  | upsertAllGroups =>
      obtain ⟨sameAnswer, alikeAfter⟩ := agree_upsertAllGroups alikeBefore
      exact ⟨congrArg (Option.map (Except.map SyncReply.count)) sameAnswer,
        alikeAfter⟩
  | upsertUser id => exact agree_once (ignoresMemo_upsertUser id) alikeBefore
  | upsertUserCopyingGroups id source =>
      exact agree_once (ignoresMemo_upsertUserCopyingGroups id source)
        alikeBefore
  | upsertUsersPage position length =>
      exact agree_once (ignoresMemo_upsertUsersPage length position) alikeBefore
  | upsertAllUsers =>
      obtain ⟨sameAnswer, alikeAfter⟩ := agree_upsertAllUsers alikeBefore
      exact ⟨congrArg (Option.map (Except.map SyncReply.count)) sameAnswer,
        alikeAfter⟩
  | upsertMembership edge =>
      exact agree_withReplica (Replica.ignoresMemo_upsertMembership edge)
        alikeBefore
  | dropGroup id =>
      exact agree_withReplica (Replica.ignoresMemo_update _) alikeBefore
  | dropAllGroups =>
      exact agree_withReplica (Replica.ignoresMemo_write _) alikeBefore
  | dropUser id =>
      exact agree_withReplica (Replica.ignoresMemo_update _) alikeBefore
  | dropAllUsers =>
      exact agree_withReplica (Replica.ignoresMemo_write _) alikeBefore
  | dropMembership edge =>
      exact agree_withReplica (Replica.ignoresMemo_update _) alikeBefore
  | memberships =>
      exact agree_withReplica Replica.ignoresMemo_allMemberships alikeBefore

end SyncCall

namespace Resync

open Session

variable {α β : Type}

theorem agree_after {action : Action (Session α) β}
    (ignores : IgnoresMemo action) (resync : Resync) (next : β → Resync)
    {left right : Session α} (alikeBefore : left.Alike right) :
    Action.Agree Session.Alike (resync.after action next left)
      (resync.after action next right) := by
  obtain ⟨answer, leftAfter, rightAfter, leftRun, rightRun, alikeAfter⟩ :=
    ignores.exists_run alikeBefore
  unfold after
  rw [leftRun, rightRun]
  cases answer <;> exact ⟨rfl, alikeAfter⟩

theorem agree_store (resync : Resync) (edge : Membership) (next : ResyncStage)
    {left right : Session α} (alikeBefore : left.Alike right) :
    Action.Agree Session.Alike (resync.store edge next left)
        (resync.store edge next right) := by
  have ignores :=
    ignoresMemo_onReplica (α := α) (Replica.ignoresMemo_upsertMembership edge)
  obtain ⟨answer, leftAfter, rightAfter, leftRun, rightRun, alikeAfter⟩ :=
    ignores.exists_run alikeBefore
  unfold store
  rw [leftRun, rightRun]
  rcases answer with error | value
  · cases error <;> exact ⟨rfl, alikeAfter⟩
  · exact ⟨rfl, alikeAfter⟩

variable [Authority α]

theorem agree_step (resync : Resync) {left right : Session α}
    (alikeBefore : left.Alike right) :
    Action.Agree Session.Alike (resync.step left) (resync.step right) := by
  unfold step
  dsimp only
  rcases resync.stage with
      _ | _ | _ | _ | position | ⟨edge, rest, following⟩ | _ | answer
  · exact agree_after (ignoresMemo_onReplica Replica.ignoresMemo_requireReset) _
      _ alikeBefore
  · exact agree_after (ignoresMemo_onReplica Replica.ignoresMemo_reset) _ _
      alikeBefore
  · exact agree_after (ignoresMemo_upsertGroupsPage _ _) _ _ alikeBefore
  · exact agree_after (ignoresMemo_upsertUsersPage _ _) _ _ alikeBefore
  · exact agree_after (ignoresMemo_ask _) _ _ alikeBefore
  · exact agree_store _ edge _ alikeBefore
  · exact agree_after (ignoresMemo_onReplica (Replica.ignoresMemo_update _)) _ _
      alikeBefore
  · exact ⟨rfl, alikeBefore⟩

theorem agree_run (steps : Nat) (resync : Resync) {left right : Session α}
    (alikeBefore : left.Alike right) :
    Action.Agree Session.Alike (run steps resync left)
        (run steps resync right) := by
  induction steps generalizing resync left right with
  | zero => exact ⟨rfl, alikeBefore⟩
  | succ steps inductionHypothesis =>
      unfold run
      split
      · exact ⟨rfl, alikeBefore⟩
      · obtain ⟨sameNext, alikeAfter⟩ := resync.agree_step alikeBefore
        dsimp only
        rw [sameNext]
        exact inductionHypothesis _ alikeAfter

end Resync

/-- A resynchronization comes to the same whatever is remembered. -/
theorem Session.agree_resync {α : Type} [Authority α] {left right : Session α}
    (alikeBefore : left.Alike right) (pageSize : Nat) :
    Action.Agree Session.Alike (left.resync pageSize)
        (right.resync pageSize) := by
  have rounds : right.rounds = left.rounds := by
    rw [Session.rounds, Session.rounds, alikeBefore.2]
  unfold resync
  rw [rounds]
  exact Resync.agree_run _ _ alikeBefore

end CachedDirectory
