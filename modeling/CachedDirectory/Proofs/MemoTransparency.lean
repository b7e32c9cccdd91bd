import CachedDirectory.Proofs.BoundedMaps
import CachedDirectory.Proofs.MemoIndependence
import CachedDirectory.Proofs.Runs

/-!
# Remembered answers

What a replica remembers is marked with the generation of the store for which it
was found. Every committed change begins a new generation, so a remembered
answer that is given is the one that would be found now, also if the store was
changed in between, its replica emptied or the answer asked for under another
spelling. Whether something is remembered, for how long and how much, is
therefore never seen in an answer.
-/

namespace CachedDirectory

open Text

namespace Replica

variable {replica after : Replica}

/-- Whether what is remembered for the present generation is what is found now,
however the id is spelled, and nothing is remembered for a generation to
come. -/
def RemembersRightly (replica : Replica) : Prop :=
  ∀ entry ∈ replica.memo.answers.entries,
    entry.value.1 ≤ replica.generation ∧
      (entry.value.1 = replica.generation → ∀ id, fold id = entry.key.2 →
        replica.readTables >>= resolve entry.key.1 id = .ok entry.value.2)

theorem remembersRightly_of_nothing
    (nothing : replica.memo.answers.entries = []) :
    replica.RemembersRightly := by
  intro entry there
  rw [nothing] at there
  cases there

theorem remembersRightly_of_connect {settings : Settings}
    {converter : Converter} {tables : Tables}
    (connected : connect settings converter tables = .ok replica) :
    replica.RemembersRightly := by
  obtain ⟨dialect, _, equality⟩ := Answer.bind_eq_ok_iff.mp connected
  cases equality
  exact remembersRightly_of_nothing rfl

/-- A committed change begins a generation for which nothing is remembered
yet. -/
theorem RemembersRightly.commit (rightly : replica.RemembersRightly)
    (tables : Tables) :
    RemembersRightly
      { replica with
          tables := tables, generation := replica.generation + 1 } := by
  intro entry there
  obtain ⟨earlier, _⟩ := rightly entry there
  refine ⟨Nat.le_succ_of_le earlier, fun same => ?_⟩
  exact absurd same (Nat.ne_of_lt (Nat.lt_succ_of_le earlier))

theorem RemembersRightly.step (rightly : replica.RemembersRightly)
    (step : Step replica after) :
    after.RemembersRightly := by
  cases step with
  | commit tables _ => exact rightly.commit tables
  | forget => exact remembersRightly_of_nothing rfl

theorem RemembersRightly.steps (rightly : replica.RemembersRightly)
    (steps : Relation.ReflTransGen Step replica after) :
    after.RemembersRightly := by
  induction steps with
  | refl => exact rightly
  | tail _ step inductionHypothesis => exact inductionHypothesis.step step

/-- Whether an answer is found depends on the id only up to its spelling. -/
theorem resolve_eq_ok_of_fold {kind : MemberKind} {id other : String}
    (same : fold other = fold id) {tables : Tables} {groups : List String}
    (found : resolve kind id tables = .ok groups) :
    resolve kind other tables = .ok groups := by
  unfold resolve at found ⊢
  rw [same]
  dsimp only at found ⊢
  split at found
  · rename_i stored
    rw [if_pos stored]
    exact found
  · cases found

/-- The groups of a member are answered as they are found now, and what is
remembered of them is right. -/
theorem RemembersRightly.effectiveGroups (rightly : replica.RemembersRightly)
    (kind : MemberKind) (id : String) :
    ∃ memo,
      (effectiveGroups kind id).run replica =
          (replica.readTables >>= resolve kind id,
            { replica with memo := memo }) ∧
        RemembersRightly { replica with memo := memo } := by
  have kept : RemembersRightly
      { replica with
        memo :=
          (replica.memo.get replica.now (kind, fold id)
            replica.generation).2 } :=
    fun entry there => rightly entry (ResolutionMemo.mem_entries_get there)
  unfold Replica.effectiveGroups
  dsimp only
  rcases result :
    replica.memo.get replica.now (kind, fold id) replica.generation with
    ⟨_ | groups, memo⟩
  · rw [result] at kept
    have same : readTables { replica with memo := memo } = replica.readTables :=
      rfl
    dsimp only
    rw [same]
    cases found : replica.readTables >>= resolve kind id with
    | error error => exact ⟨memo, rfl, kept⟩
    | ok groups =>
        refine ⟨_, rfl, ?_⟩
        intro entry there
        rcases BoundedMap.mem_entries_put there with earlier | rfl
        · exact kept entry earlier
        · refine ⟨Nat.le_refl _, fun _ other spelled => ?_⟩
          obtain ⟨tables, readable, resolved⟩ := Answer.bind_eq_ok_iff.mp found
          exact Answer.bind_eq_ok_iff.mpr
            ⟨tables, readable, resolve_eq_ok_of_fold spelled resolved⟩
  · have given := congrArg Prod.fst result
    obtain ⟨entry, there, keyed, valued⟩ :=
      ResolutionMemo.exists_of_get_eq_some given
    obtain ⟨_, found⟩ := rightly entry there
    rw [keyed, valued] at found
    rw [result] at kept
    exact ⟨memo, by rw [found rfl id rfl], kept⟩

end Replica

namespace Session

/-- A use of a session: an operation that counts its changes and leaves the
store open. -/
structure Use (α : Type) where
  operation : Operation α
  counted : operation.isCounted = true
  keepsOpen : operation.closes = false

variable {α : Type} [Authority α]

/-- What is answered when groups are asked for in a way, and the session after a
use. -/
def Use.run (ask : MemberKind → String → Action Replica (List String))
    (session : Session α) (use : Use α) :
    Option (Answer (List String)) × Session α :=
  match use.operation with
  | .read (.effectiveGroups kind id) =>
      let (answer, after) := (onReplica (ask kind id)).run session
      (some answer, after)
  | operation => (none, operation.run session)

/-- What is answered in the course of uses if groups are asked for in a way. -/
def answers (ask : MemberKind → String → Action Replica (List String)) :
    List (Use α) → Session α → List (Answer (List String))
  | [], _ => []
  | use :: uses, session =>
      let (answer, after) := use.run ask session
      answer.toList ++ answers ask uses after

/-- The groups that a member belongs to, found anew without a look at what is
remembered. -/
def groupsAnew (kind : MemberKind) (id : String) :
    Action Replica (List String) :=
  Replica.read (Replica.resolve kind id)

/-- In a use, groups are asked for as they are in an operation. -/
theorem Use.run_effectiveGroups (use : Use α) (session : Session α) :
    (use.run Replica.effectiveGroups session).2 =
        use.operation.run session := by
  unfold run
  split
  · rename_i kind id asked
    rw [asked]
    rfl
  · rfl

end Session

namespace Replica

variable {replica after : Replica}

/-- What is remembered stays right as long as the store is not closed. -/
theorem RemembersRightly.move (rightly : replica.RemembersRightly)
    (move : Move replica after) : after.RemembersRightly := by
  cases move with
  | step _ step => exact rightly.step step
  | read reading =>
      cases reading with
      | count | lookup | search | memberships => exact rightly
      | effectiveGroups kind id =>
          obtain ⟨memo, answered, kept⟩ := rightly.effectiveGroups kind id
          dsimp only [Reading.run]
          rw [answered]
          exact kept
  | pass => exact rightly

theorem RemembersRightly.turn (rightly : replica.RemembersRightly)
    (turn : Turn false replica after) : after.RemembersRightly := by
  cases turn with
  | moves moves =>
      induction moves with
      | refl => exact rightly
      | tail _ move inductionHypothesis => exact inductionHypothesis.move move
  | block =>
      unfold Block.run
      dsimp only
      split
      · exact rightly.commit _
      · exact rightly

end Replica

namespace Operation

open Session

variable {α : Type} [Authority α] {operation : Operation α}

/-- Sessions that differ in what is remembered alone still do so after an
operation that counts its changes. -/
theorem alike_run (counted : operation.isCounted = true)
    {left right : Session α} (alikeBefore : left.Alike right) :
    (operation.run left).Alike (operation.run right) := by
  cases operation with
  | read reading =>
      obtain ⟨⟨other, same⟩, sameAuthority⟩ := alikeBefore
      obtain ⟨memo, changed⟩ := reading.exists_memo left.replica
      obtain ⟨otherMemo, otherChanged⟩ := reading.exists_memo right.replica
      refine ⟨⟨otherMemo, ?_⟩, sameAuthority⟩
      dsimp only [run]
      rw [changed, otherChanged, same]
  | call made => exact (made.agree_run alikeBefore).2
  | resync pageSize => exact (agree_resync alikeBefore pageSize).2
  | resyncStep stage => exact (stage.agree_step alikeBefore).2
  | storeGroups groups =>
      exact (ignoresMemo_onReplica (Replica.ignoresMemo_storeAll _ groups) left
        right alikeBefore).2
  | storeUsers users =>
      exact (ignoresMemo_onReplica (Replica.ignoresMemo_storeAll _ users) left
        right alikeBefore).2
  | readBlock statements givesUp =>
      have kept (session : Session α) :
          (run session (readBlock statements givesUp)).replica =
            session.replica :=
        Block.replica_of_onlyReads (List.all_eq_true.mp counted) givesUp
          session.replica
      refine ⟨?_, alikeBefore.2⟩
      rw [kept, kept]
      exact alikeBefore.1
  | writeBlock statements givesUp =>
      exact (ignoresMemo_onReplica (Block.ignoresMemo_run statements givesUp)
        left right alikeBefore).2
  | pass nanoseconds =>
      obtain ⟨⟨other, same⟩, sameAuthority⟩ := alikeBefore
      refine ⟨⟨other, ?_⟩, sameAuthority⟩
      dsimp only [run]
      rw [same]
  | close =>
      obtain ⟨⟨other, same⟩, sameAuthority⟩ := alikeBefore
      refine ⟨⟨other, ?_⟩, sameAuthority⟩
      dsimp only [run]
      rw [same]
      rfl
  | change edit =>
      exact ⟨alikeBefore.1, congrArg edit alikeBefore.2⟩

end Operation

namespace Session

variable {α : Type} [Authority α]

/-- A use is answered as if nothing were remembered, and what is remembered
stays right. -/
theorem Use.agree_run (use : Use α) {left right : Session α}
    (alikeBefore : left.Alike right)
    (rightly : left.replica.RemembersRightly) :
    Action.Agree Session.Alike (use.run Replica.effectiveGroups left)
        (use.run groupsAnew right) ∧
      (use.run Replica.effectiveGroups left).2.replica.RemembersRightly := by
  constructor
  · rcases use with ⟨operation, counted, keepsOpen⟩
    unfold run
    dsimp only
    split
    · rename_i kind id
      obtain ⟨memo, answered, _⟩ := rightly.effectiveGroups kind id
      obtain ⟨⟨other, same⟩, sameAuthority⟩ := alikeBefore
      simp only [run_onReplica answered]
      refine ⟨?_, ⟨other, same⟩, sameAuthority⟩
      show _ = some (right.replica.readTables >>= Replica.resolve kind id)
      rw [same]
      rfl
    · exact ⟨rfl, operation.alike_run counted alikeBefore⟩
  · rw [use.run_effectiveGroups]
    have turn := Operation.turn_run use.counted left
    rw [use.keepsOpen] at turn
    exact rightly.turn turn

theorem answers_eq_of_alike (uses : List (Use α)) {left right : Session α}
    (alikeBefore : left.Alike right) (rightly : left.replica.RemembersRightly) :
    answers Replica.effectiveGroups uses left =
        answers groupsAnew uses right := by
  induction uses generalizing left right with
  | nil => rfl
  | cons use uses inductionHypothesis =>
      obtain ⟨⟨sameAnswer, alikeAfter⟩, stillRightly⟩ :=
        use.agree_run alikeBefore rightly
      dsimp only [answers]
      rw [sameAnswer, inductionHypothesis alikeAfter stillRightly]

/-- Whatever a memo can hold and for how long, and whatever happens in between,
the groups of members are answered as if they were found anew each time. -/
theorem answers_effectiveGroups (uses : List (Use α)) (replica : Replica)
    (authority : α) (capacity maxAge : Nat) :
    answers Replica.effectiveGroups uses
        ⟨{ replica with memo := .empty capacity maxAge }, authority⟩ =
      answers groupsAnew uses
          ⟨{ replica with memo := .empty capacity maxAge }, authority⟩ := by
  apply answers_eq_of_alike
  · exact ⟨⟨.empty capacity maxAge, rfl⟩, rfl⟩
  · exact Replica.remembersRightly_of_nothing rfl

end Session

end CachedDirectory
