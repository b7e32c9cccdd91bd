import CachedDirectory.Proofs.SyncSteps
import CachedDirectory.Replica.Block
import CachedDirectory.Replica.Reading

/-!
# Runs of operations

A session is used by operations, one after the other. Apart from statements of
the user's own, an operation is made of steps that keep the replica in step, of
questions and of time that passes, or it closes the store. What a replica can
become is told by how it begins and by the sort of operations that are allowed.
-/

namespace CachedDirectory

open Relation

/-! ## Statements that only read -/

/-- Whether a statement of the catalogue only reads. -/
def Clause.onlyReads : Clause → Bool
  | entitySelect | entityExists | entityCount | membershipPage
  | membershipPageAfter | membershipEffectiveGroups | metaGet => true
  | entityUpsert | entityDelete | entityDeleteType | entityDeleteAll
  | membershipUpsert | membershipDelete | membershipDeleteMember
  | membershipDeleteGroup | membershipDeleteMemberType | membershipDeleteAll
  | membershipCopy | metaPut => false

theorem Clause.tables_of_onlyReads {clause : Clause}
    (reads : clause.onlyReads = true) {arg : String → SqlValue}
    {tables after : Tables} {effect : Effect}
    (ran : clause.run arg tables = .ok (effect, after)) : after = tables := by
  cases clause with
  | entitySelect | membershipPage | membershipPageAfter =>
      obtain ⟨_, _, equality⟩ := Answer.bind_eq_ok_iff.mp ran
      cases equality
      rfl
  | entityExists | entityCount | membershipEffectiveGroups | metaGet =>
      cases ran
      rfl
  | _ => cases reads

namespace BlockStatement

/-- Whether a statement of a block only reads. -/
def onlyReads (step : BlockStatement) : Bool :=
  (Clause.ofName? step.clause).all Clause.onlyReads

variable {dialect : Dialect} {access : Access} {state after : BlockState}

theorem tables_of_run {step : BlockStatement} (reads : step.onlyReads = true)
    {outcome : Outcome}
    (ran : step.run dialect access state = .ok (outcome, after)) :
    after.tables = state.tables := by
  unfold run at ran
  unfold onlyReads at reads
  cases named : Clause.ofName? step.clause with
  | none =>
      rw [named] at ran
      cases ran
  | some clause =>
      rw [named] at ran reads
      dsimp only at ran
      split at ran
      · cases ran
      · obtain ⟨_, _, rest⟩ := Answer.bind_eq_ok_iff.mp ran
        obtain ⟨⟨effect, tables⟩, changed, equality⟩ :=
          Answer.bind_eq_ok_iff.mp rest
        cases equality
        exact Clause.tables_of_onlyReads reads changed

theorem tables_of_runAll {steps : List BlockStatement}
    (reads : ∀ step ∈ steps, step.onlyReads = true) {outcomes : List Outcome}
    (ran : runAll dialect access steps state = .ok (outcomes, after)) :
    after.tables = state.tables := by
  induction steps generalizing state outcomes with
  | nil =>
      cases ran
      rfl
  | cons step rest inductionHypothesis =>
      obtain ⟨⟨outcome, between⟩, first, others⟩ := Answer.bind_eq_ok_iff.mp ran
      obtain ⟨⟨answers, final⟩, later, equality⟩ :=
        Answer.bind_eq_ok_iff.mp others
      cases equality
      have kept := inductionHypothesis
        (fun other member => reads other (List.mem_cons_of_mem step member))
          later
      rw [kept]
      exact tables_of_run (reads step List.mem_cons_self) first

end BlockStatement

namespace Block

/-- A block that only reads leaves the replica as it is. -/
theorem replica_of_onlyReads {statements : List BlockStatement}
    (reads : ∀ step ∈ statements, step.onlyReads = true) (givesUp : Bool)
    (replica : Replica) :
    ((run ⟨.replica, .read, statements, givesUp⟩).run replica).2 = replica := by
  unfold run
  dsimp only
  rcases ran : tables ⟨.replica, .read, statements, givesUp⟩ replica >>=
    outcomes ⟨.replica, .read, statements, givesUp⟩ replica.dialect with
        error | ⟨results, after⟩
  · rfl
  · obtain ⟨visible, readable, outcome⟩ := Answer.bind_eq_ok_iff.mp ran
    obtain ⟨⟨answers, final⟩, finished, settled⟩ :=
      Answer.bind_eq_ok_iff.mp outcome
    have kept := BlockStatement.tables_of_runAll reads finished
    have same : visible = replica.tables :=
      Replica.tables_of_readTables readable
    dsimp only at settled kept
    split at settled
    · cases settled
    · cases settled
      show { replica with tables := final.tables } = replica
      rw [kept, same]

end Block

/-! ## Questions -/

/-- A question to a replica. -/
inductive Reading where
  | count (kind : EntityKind)
  | lookup (kind : EntityKind) (id : String)
  | search (request : SearchRequest)
  | memberships
  | effectiveGroups (kind : MemberKind) (id : String)

/-- The replica after a question. -/
def Reading.run (replica : Replica) : Reading → Replica
  | count kind => ((Replica.count kind).run replica).2
  | lookup kind id => ((Replica.lookup kind id).run replica).2
  | search request => ((Replica.search request).run replica).2
  | memberships => (Replica.memberships.run replica).2
  | effectiveGroups kind id => ((Replica.effectiveGroups kind id).run replica).2

/-- At most what is remembered is changed by a question. -/
theorem Reading.exists_memo (reading : Reading) (replica : Replica) :
    ∃ memo, reading.run replica = { replica with memo := memo } := by
  cases reading with
  | count | lookup | search | memberships => exact ⟨replica.memo, rfl⟩
  | effectiveGroups kind id =>
      unfold run Replica.effectiveGroups
      dsimp only
      split
      · exact ⟨_, rfl⟩
      · split <;> exact ⟨_, rfl⟩

/-! ## Operations -/

/-- An operation on a session: one on its replica, or what happens to it from
outside. -/
inductive Operation (α : Type) where
  | read (reading : Reading)
  | call (call : SyncCall)
  | resync (pageSize : Nat)
  /-- A single step of a resynchronization. -/
  | resyncStep (resync : Resync)
  /-- A part of what it takes to copy a page of groups. -/
  | storeGroups (groups : List Group)
  /-- A part of what it takes to copy a page of users. -/
  | storeUsers (users : List User)
  /-- Statements under read access. -/
  | readBlock (statements : List BlockStatement) (givesUp : Bool)
  /-- Statements under write access. -/
  | writeBlock (statements : List BlockStatement) (givesUp : Bool)
  | pass (nanoseconds : Nat)
  | close
  /-- The authority changes on its own. -/
  | change (edit : α → α)

namespace Operation

open Session

variable {α : Type} [Authority α]

/-- The session after an operation. -/
def run (session : Session α) : Operation α → Session α
  | read reading => { session with replica := reading.run session.replica }
  | call made => (made.run session).2
  | resync pageSize => (session.resync pageSize).2
  | resyncStep stage => (stage.step session).2
  | storeGroups groups =>
      ((onReplica (Replica.storeAll EntityRow.ofGroup? groups)).run session).2
  | storeUsers users =>
      ((onReplica (Replica.storeAll EntityRow.ofUser? users)).run session).2
  | readBlock statements givesUp =>
      ((onReplica (Block.run ⟨.replica, .read, statements, givesUp⟩)).run
        session).2
  | writeBlock statements givesUp =>
      ((onReplica (Block.run ⟨.replica, .write, statements, givesUp⟩)).run
        session).2
  | pass nanoseconds =>
      let replica := session.replica
      { session with
        replica := { replica with now := replica.now + nanoseconds } }
  | close => { session with replica := session.replica.close }
  | change edit => { session with authority := edit session.authority }

/-- Whether the changes of an operation are counted: no statement that changes
something is run under read access. -/
def isCounted : Operation α → Bool
  | readBlock statements _ => statements.all (·.onlyReads)
  | read _ | call _ | resync _ | resyncStep _ | storeGroups _ | storeUsers _
  | writeBlock _ _ | pass _ | close | change _ => true

/-- Whether an operation runs statements of the user's own, which may write
anything. -/
def runsStatements : Operation α → Bool
  | readBlock _ _ | writeBlock _ _ => true
  | read _ | call _ | resync _ | resyncStep _ | storeGroups _ | storeUsers _
  | pass _ | close | change _ => false

/-- Whether an operation closes the store. -/
def closes : Operation α → Bool
  | close => true
  | read _ | call _ | resync _ | resyncStep _ | storeGroups _ | storeUsers _
  | readBlock _ _ | writeBlock _ _ | pass _ | change _ => false

/-- The session after operations. -/
def runAll (operations : List (Operation α)) (session : Session α) :
    Session α :=
  operations.foldl run session

end Operation

/-! ## What an operation does -/

/-- A move of a replica: a step, a question, or that time passes. -/
inductive Replica.Move : Replica → Replica → Prop
  | step (replica after : Replica) (step : Step replica after) :
      Move replica after
  | read (replica : Replica) (reading : Reading) :
      Move replica (reading.run replica)
  | pass (replica : Replica) (now : Nat) :
      Move replica { replica with now := now }

/-- What an operation that counts its changes does to a replica. The flag tells
whether it closes the store. -/
inductive Replica.Turn : Bool → Replica → Replica → Prop
  | moves {replica after : Replica} (moves : ReflTransGen Move replica after) :
      Turn false replica after
  | close (replica : Replica) : Turn true replica replica.close
  | block (replica : Replica) (statements : List BlockStatement)
      (givesUp : Bool) :
      Turn false replica
        ((Block.run ⟨.replica, .write, statements, givesUp⟩).run replica).2

namespace Operation

variable {α : Type} [Authority α] {operation : Operation α}

theorem moves_of_steps {replica after : Replica}
    (steps : ReflTransGen Replica.Step replica after) :
    ReflTransGen Replica.Move replica after :=
  ReflTransGen.mono (fun before after step => .step before after step) _ _ steps

/-- An operation without statements of the user's own is made of moves, unless
it closes the store. -/
theorem moves_run (own : operation.runsStatements = false)
    (keepsOpen : operation.closes = false) (session : Session α) :
    ReflTransGen Replica.Move session.replica
        (operation.run session).replica := by
  cases operation with
  | read reading => exact .single (.read session.replica reading)
  | call made => exact moves_of_steps (made.steps_run session)
  | resync pageSize => exact moves_of_steps (Resync.steps_run _ _ session)
  | resyncStep stage => exact moves_of_steps (stage.steps_step session)
  | storeGroups groups =>
      exact moves_of_steps (Replica.takesSteps_storeAll
        (fun _ _ stored => EntityRow.isRecord_of_ofGroup? stored) groups
        session.replica)
  | storeUsers users =>
      exact moves_of_steps (Replica.takesSteps_storeAll
        (fun _ _ stored => EntityRow.isRecord_of_ofUser? stored) users
        session.replica)
  | readBlock | writeBlock => cases own
  | pass nanoseconds => exact .single (.pass session.replica _)
  | close => cases keepsOpen
  | change edit => exact .refl

theorem replica_run_of_closes (closes : operation.closes = true)
    (session : Session α) :
    (operation.run session).replica = session.replica.close := by
  cases operation with
  | close => rfl
  | _ => cases closes

theorem turn_run (counted : operation.isCounted = true) (session : Session α) :
    Replica.Turn operation.closes session.replica
      (operation.run session).replica := by
  cases closes : operation.closes with
  | true =>
      rw [replica_run_of_closes closes session]
      exact .close session.replica
  | false =>
      cases own : operation.runsStatements with
      | false => exact .moves (moves_run own closes session)
      | true =>
          cases operation with
          | readBlock statements givesUp =>
              have kept : (run session (readBlock statements givesUp)).replica =
                  session.replica :=
                Block.replica_of_onlyReads (List.all_eq_true.mp counted) givesUp
                  session.replica
              rw [kept]
              exact .moves .refl
          | writeBlock statements givesUp =>
              exact .block session.replica statements givesUp
          | _ => cases own

omit [Authority α] in
theorem isCounted_of_own (own : operation.runsStatements = false) :
    operation.isCounted = true := by
  cases operation with
  | readBlock | writeBlock => cases own
  | _ => rfl

end Operation

/-! ## Runs -/

/-- What a replica can become that begins in some way: operations of some sort
are carried out one after the other, each with an authority of its own in any
state, and a new replica may take over the store. -/
inductive Replica.ReachedBy (begins : Replica → Prop)
    (allows : (α : Type) → [Authority α] → α → Operation α → Prop) :
    Replica → Prop
  | begin {replica : Replica} (begun : begins replica) :
      ReachedBy begins allows replica
  | reconnect {earlier : Replica} (reached : ReachedBy begins allows earlier)
      (settings : Settings) (converter : Converter) {replica : Replica}
      (connected :
        Replica.connect settings converter earlier.tables = .ok replica) :
      ReachedBy begins allows replica
  | operate {replica : Replica} (reached : ReachedBy begins allows replica)
      {α : Type} [Authority α] (authority : α) (operation : Operation α)
      (allowed : allows α authority operation) :
      ReachedBy begins allows (operation.run ⟨replica, authority⟩).replica

namespace Replica

variable {begins begins' : Replica → Prop}
  {allows allows' : (α : Type) → [Authority α] → α → Operation α → Prop}

/-- More can be reached from more beginnings by more operations. -/
theorem ReachedBy.mono {replica : Replica}
    (reached : ReachedBy begins allows replica)
    (begun : ∀ replica, begins replica → begins' replica)
    (allowed : ∀ (α : Type) [Authority α] (authority : α)
      (operation : Operation α), allows α authority operation →
        allows' α authority operation) :
    ReachedBy begins' allows' replica := by
  induction reached with
  | begin first => exact .begin (begun _ first)
  | reconnect _ settings converter connected inductionHypothesis =>
      exact .reconnect inductionHypothesis settings converter connected
  | operate _ authority operation isAllowed inductionHypothesis =>
      exact .operate inductionHypothesis authority operation
        (allowed _ authority operation isAllowed)

/-- A run of operations that are allowed with every authority goes on from what
was reached. -/
theorem ReachedBy.runAll {α : Type} [Authority α] {session : Session α}
    (reached : ReachedBy begins allows session.replica)
    {operations : List (Operation α)}
    (allowed : ∀ operation ∈ operations, ∀ authority,
      allows α authority operation) :
    ReachedBy begins allows (Operation.runAll operations session).replica := by
  induction operations generalizing session with
  | nil => exact reached
  | cons operation rest inductionHypothesis =>
      have first := allowed operation List.mem_cons_self session.authority
      exact inductionHypothesis
        (reached.operate session.authority operation first)
        fun other member =>
          allowed other (List.mem_cons_of_mem operation member)

end Replica

end CachedDirectory
