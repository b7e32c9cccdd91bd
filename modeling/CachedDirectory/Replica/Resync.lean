import CachedDirectory.Replica.Sync

/-!
# Resynchronization

A resynchronization rebuilds a replica that waits for it: it empties the store,
copies the groups and the users page by page, stores the edges one by one, and
marks the store complete at the very end. A failure ends it, so the store stays
marked as incomplete; an edge between entities that are not stored is only
skipped and counted. The work is done in steps, of which each changes the
replica at most once or copies one page.
-/

namespace CachedDirectory

/-- What a resynchronization did. -/
structure SyncReport where
  /-- Whether there was anything to do. -/
  performed : Bool := false
  groups : Nat := 0
  users : Nat := 0
  memberships : Nat := 0
  /-- How many edges were skipped. -/
  skipped : Nat := 0
deriving DecidableEq, Repr

/-- What a resynchronization does next. -/
inductive ResyncStage where
  /-- Find out whether it is needed. -/
  | check
  | empty
  /-- Copy a page of groups. -/
  | groups
  /-- Copy a page of users. -/
  | users
  /-- Ask for the edges from a position on. -/
  | edges (position : Nat)
  /-- Store the edges of a page; then ask for the page at a position, if there
  is another one. -/
  | storing (edge : Membership) (rest : List Membership)
      (following : Option Nat)
  | complete
  /-- Nothing. -/
  | over (answer : Answer PUnit)
deriving Repr

/-- Where a resynchronization stands. -/
structure Resync where
  /-- How many records are copied at once. -/
  pageSize : Nat
  report : SyncReport
  stage : ResyncStage
deriving Repr

namespace Resync

/-- A resynchronization that has not begun. -/
def ofPageSize (pageSize : Nat) : Resync :=
  ⟨max pageSize 1, {}, .check⟩

/-- The resynchronization at another stage. -/
def goTo (resync : Resync) (stage : ResyncStage) : Resync :=
  { resync with stage := stage }

/-- The resynchronization after a failure. -/
def failed (resync : Resync) (error : DirectoryError) : Resync :=
  resync.goTo (.over (.error error))

/-- The stage at which a page of edges is stored. -/
def stageOfPage (page : List Membership) (following : Option Nat) :
    ResyncStage :=
  match page, following with
  | edge :: rest, _ => .storing edge rest following
  | [], some position => .edges position
  | [], none => .complete

/-- The final answer, if there is one. -/
def answer? (resync : Resync) : Option (Answer SyncReport) :=
  match resync.stage with
  | .over (.ok _) => some (.ok resync.report)
  | .over (.error error) => some (.error error)
  | _ => none

variable {α : Type} [Authority α]

/-- Runs an action and goes on as its value says; a failure ends the
resynchronization. -/
def after {β : Type} (resync : Resync) (action : Action (Session α) β)
    (next : β → Resync) (session : Session α) : Resync × Session α :=
  match action.run session with
  | (.ok value, changed) => (next value, changed)
  | (.error error, changed) => (resync.failed error, changed)

/-- Stores an edge. One whose ends are not both stored is skipped. -/
def store (resync : Resync) (edge : Membership) (next : ResyncStage)
    (session : Session α) :
    Resync × Session α :=
  let report := resync.report
  match (Session.onReplica (Replica.upsertMembership edge)).run session with
  | (.ok _, changed) =>
      (⟨resync.pageSize, { report with memberships := report.memberships + 1 },
        next⟩, changed)
  | (.error (.notFound _ _), changed) =>
      (⟨resync.pageSize, { report with skipped := report.skipped + 1 }, next⟩,
        changed)
  | (.error error, changed) => (resync.failed error, changed)

/-- Takes one step. -/
def step (resync : Resync) (session : Session α) : Resync × Session α :=
  let pageSize := resync.pageSize
  let report := resync.report
  match resync.stage with
  | .check =>
      resync.after (Session.onReplica Replica.requireReset)
        (fun needed =>
          if needed then ⟨pageSize, { report with performed := true }, .empty⟩
          else resync.goTo (.over (.ok ⟨⟩)))
        session
  | .empty =>
      resync.after (Session.onReplica Replica.reset)
        (fun _ => resync.goTo .groups) session
  | .groups =>
      resync.after (Session.upsertGroupsPage pageSize report.groups)
        (fun copied =>
          ⟨pageSize, { report with groups := report.groups + copied },
            if copied < pageSize then .users else .groups⟩)
        session
  | .users =>
      resync.after (Session.upsertUsersPage pageSize report.users)
        (fun copied =>
          ⟨pageSize, { report with users := report.users + copied },
            if copied < pageSize then .edges 0 else .users⟩)
        session
  | .edges position =>
      resync.after (Session.ask (Authority.memberships position pageSize))
        (fun page =>
          let following :=
            if page.length <
              pageSize then none else some (position + page.length)
          resync.goTo (stageOfPage page following))
        session
  | .storing edge rest following =>
      resync.store edge (stageOfPage rest following) session
  | .complete =>
      resync.after (Session.onReplica Replica.markSynchronized)
        (fun _ => resync.goTo (.over (.ok ⟨⟩))) session
  | .over _ => (resync, session)

/-- Takes steps until there is an answer, at most a number of them. -/
def run : Nat → Resync → Session α → Option (Answer SyncReport) × Session α
  | 0, resync, session => (resync.answer?, session)
  | steps + 1, resync, session =>
      match resync.answer? with
      | some answer => (some answer, session)
      | none =>
          let (next, changed) := resync.step session
          run steps next changed

end Resync

namespace Session

variable {α : Type} [Authority α]

/-- Rebuilds the replica if it waits for it. There is no answer if the authority
has not come to an end after all rounds. -/
def resync (session : Session α) (pageSize : Nat) :
    Option (Answer SyncReport) × Session α :=
  (Resync.ofPageSize pageSize).run session.rounds session

end Session

end CachedDirectory
