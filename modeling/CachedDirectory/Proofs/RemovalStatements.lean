import CachedDirectory.Proofs.Compilation
import CachedDirectory.Proofs.Removals
import CachedDirectory.Replica.Block

/-!
# Statements of removals

A removal is a block of statements of the catalogue, each of which deletes rows.
Run as a block it leaves what the call leaves, and its last statement changes as
many rows as the call counts.
-/

namespace CachedDirectory

open Text

namespace Piece

/-- Whether a piece is no placeholder but for one of some names. -/
def takesOnly (names : List String) : Piece → Bool
  | plain _ => true
  | positional => false
  | named name => names.contains name

end Piece

/-- The deletions of the catalogue. -/
inductive Deletion where
  | edge (groupKey memberKind memberKey : String)
  | edgesOfGroup (key : String)
  | edgesOfMember (kind key : String)
  | edgesOfKind (kind : String)
  | edges
  | entity (kind key : String)
  | entitiesOfKind (kind : String)
deriving DecidableEq, Repr

namespace Deletion

def clause : Deletion → Clause
  | edge _ _ _ => .membershipDelete
  | edgesOfGroup _ => .membershipDeleteGroup
  | edgesOfMember _ _ => .membershipDeleteMember
  | edgesOfKind _ => .membershipDeleteMemberType
  | edges => .membershipDeleteAll
  | entity _ _ => .entityDelete
  | entitiesOfKind _ => .entityDeleteType

/-- The values of a deletion, by name. -/
def bindings : Deletion → List (String × SqlValue)
  | edge groupKey memberKind memberKey =>
      [("group_key", .text groupKey), ("member_type", .text memberKind),
        ("member_key", .text memberKey)]
  | edgesOfGroup key => [("group_key", .text key)]
  | edgesOfMember kind key =>
      [("member_type", .text kind), ("member_key", .text key)]
  | edgesOfKind kind => [("member_type", .text kind)]
  | edges => []
  | entity kind key => [("entity_type", .text kind), ("id_key", .text key)]
  | entitiesOfKind kind => [("entity_type", .text kind)]

def statement (deletion : Deletion) : BlockStatement :=
  ⟨deletion.clause.name, .update, deletion.bindings⟩

/-- The tables after a deletion. -/
def apply (tables : Tables) : Deletion → Tables
  | edge groupKey memberKind memberKey =>
      tables.deleteEdgesWhere
        (Tables.isEdge (.text groupKey) (.text memberKind) (.text memberKey))
  | edgesOfGroup key => tables.deleteEdgesWhere (Tables.hasGroup (.text key))
  | edgesOfMember kind key =>
      tables.deleteEdgesWhere (Tables.hasMember (.text kind) (.text key))
  | edgesOfKind kind =>
      tables.deleteEdgesWhere (Tables.hasMemberKind (.text kind))
  | edges => tables.deleteEdges
  | entity kind key => tables.deleteEntity (.text kind) (.text key)
  | entitiesOfKind kind => tables.deleteKind (.text kind)

/-- The state of a block after a deletion. -/
def step (state : BlockState) (deletion : Deletion) : BlockState :=
  let after := deletion.apply state.tables
  ⟨after,
    state.tables.entities.length - after.entities.length +
      (state.tables.edges.length - after.edges.length)⟩

/-- All placeholders of a deletion are for the names of its values. -/
theorem all_takesOnly (deletion : Deletion) (dialect : Dialect) :
    (Piece.scan false (deletion.clause.text dialect).toList).all
      (Piece.takesOnly (deletion.bindings.map Prod.fst)) = true := by
  have same : deletion.clause.text dialect = deletion.clause.text .sqlite := by
    cases dialect <;> cases deletion <;> rfl
  rw [same]
  cases deletion <;> simp only [clause, bindings, List.map_cons, List.map_nil]
    <;> decide +kernel

theorem bound_eq_derived (deletion : Deletion) (dialect : Dialect) :
    deletion.statement.bound (deletion.clause.statement dialect) =
      .derived (deletion.clause.text dialect)
        (deletion.bindings.map fun (name, value) => .toName name value) := by
  rw [BlockStatement.bound, Statement.derived, List.foldl_map]
  rfl

theorem exists_compile (deletion : Deletion) (dialect : Dialect) :
    ∃ compiled,
      (deletion.statement.bound (deletion.clause.statement dialect)).compile =
      .ok compiled := by
  have takes := List.all_eq_true.mp (deletion.all_takesOnly dialect)
  rw [bound_eq_derived, Statement.exists_compile_iff]
  constructor
  · intro name member
    have listed : name ∈ deletion.bindings.map Prod.fst := by
      simpa [Piece.takesOnly] using takes _ member
    obtain ⟨⟨_, value⟩, bound, rfl⟩ := List.mem_map.mp listed
    exact ⟨value, List.mem_map_of_mem bound⟩
  · have none :
        Piece.positional ∉
            Piece.scan false (deletion.clause.text dialect).toList :=
      fun member => absurd (takes _ member) (by simp [Piece.takesOnly])
    rw [List.count_eq_zero.mpr none]
    simp [Binding.ordered, Binding.orderedValues, List.flatMap_map]

theorem value_bound (deletion : Deletion) (dialect : Dialect) (name : String) :
    (deletion.statement.bound (deletion.clause.statement dialect)).value name =
      (Binding.latest? name
        (deletion.bindings.map fun (name, value) => .toName name value)).getD
            .null := by
  rw [Statement.value, bound_eq_derived, Statement.derived_value?]

theorem run_clause (deletion : Deletion) (dialect : Dialect) (tables : Tables) :
    deletion.clause.run
      (deletion.statement.bound (deletion.clause.statement dialect)).value
      tables =
      .ok (Clause.deletion tables (deletion.apply tables)) := by
  rw [funext (deletion.value_bound dialect)]
  cases deletion <;>
    simp [clause, Clause.run, Clause.textCell, bindings, apply, Binding.latest?,
      Binding.valueFor?]

theorem run_statement (deletion : Deletion) (dialect : Dialect)
    (state : BlockState) :
    deletion.statement.run dialect .write state =
      .ok (.updated (step state deletion).changed, step state deletion) := by
  obtain ⟨compiled, compiles⟩ := deletion.exists_compile dialect
  have known :
      Clause.ofName? deletion.statement.clause = some deletion.clause :=
    Clause.ofName?_name deletion.clause
  rw [BlockStatement.run, known]
  simp only [reduceCtorEq, and_false, if_false, compiles]
  rw [run_clause]
  rfl

theorem runAll_statements (first : Deletion) (rest : List Deletion)
    (dialect : Dialect) (state : BlockState) :
    ∃ earlier,
      BlockStatement.runAll dialect .write
        ((first :: rest).map statement) state =
        .ok (earlier ++ [.updated ((first :: rest).foldl step state).changed],
          (first :: rest).foldl step state) := by
  induction rest generalizing first state with
  | nil =>
      refine ⟨[], ?_⟩
      rw [List.map_cons, BlockStatement.runAll, run_statement]
      rfl
  | cons second rest inductionHypothesis =>
      obtain ⟨earlier, later⟩ := inductionHypothesis second (step state first)
      refine ⟨.updated (step state first).changed :: earlier, ?_⟩
      exact Answer.bind_eq_ok_iff.mpr
        ⟨_, first.run_statement dialect state,
          Answer.bind_eq_ok_iff.mpr ⟨_, later, rfl⟩⟩

end Deletion

namespace Removal

/-- The deletions of a removal, in the order in which they are made. -/
def deletions : Removal → List Deletion
  | group id =>
      [.edgesOfGroup (fold id), .edgesOfMember MemberKind.group.name (fold id),
        .entity EntityKind.group.name (fold id)]
  | allGroups => [.edges, .entitiesOfKind EntityKind.group.name]
  | user id =>
      [.edgesOfMember MemberKind.user.name (fold id),
        .entity EntityKind.user.name (fold id)]
  | allUsers =>
      [.edgesOfKind MemberKind.user.name, .entitiesOfKind EntityKind.user.name]
  | membership edge =>
      [.edge (fold edge.groupId) edge.memberKind.name (fold edge.memberId)]

def block (removal : Removal) : Block :=
  ⟨.replica, .write, removal.deletions.map Deletion.statement, false⟩

theorem foldl_deletions (removal : Removal) (state : BlockState) :
    (removal.deletions.foldl Deletion.step state).tables =
        removal.change state.tables := by
  cases removal <;> rfl

/-- The last deletion takes the entities; only its count is given, and only if
they are many. -/
theorem reply_foldl_deletions (removal : Removal) (state : BlockState) :
    removal.reply (removal.deletions.foldl Deletion.step state).changed =
      removal.reply (state.tables.entities.countP removal.namesEntity) := by
  have counted := removal.length_sub_without state.tables
  rw [← change_eq_without] at counted
  rw [← counted]
  cases removal with
  | group id | user id | membership edge => rfl
  | allGroups | allUsers =>
      refine congrArg SyncReply.count ?_
      exact Nat.add_eq_left.mpr (Nat.sub_self _)

/-- Run as a block, the statements of a removal do what its call does. -/
theorem run_block {α : Type} [Authority α] {replica : Replica}
    (opened : replica.isOpen = true) (authority : α) (removal : Removal) :
    let after := removal.call.run ⟨replica, authority⟩
    ∃ earlier removed,
      removal.block.run.run replica =
        (.ok (earlier ++ [.updated removed]), after.2.replica) ∧
        after.1 = some (.ok (removal.reply removed)) := by
  intro after
  have ran : after = _ := run_of_open opened authority removal
  obtain ⟨first, rest, shape⟩ :
      ∃ first rest, removal.deletions = first :: rest := by
    cases removal <;> exact ⟨_, _, rfl⟩
  obtain ⟨earlier, done⟩ :=
    Deletion.runAll_statements first rest replica.dialect ⟨replica.tables, 0⟩
  rw [← shape] at done
  have tables := removal.foldl_deletions ⟨replica.tables, 0⟩
  have reply := removal.reply_foldl_deletions ⟨replica.tables, 0⟩
  rw [change_eq_without] at tables
  refine ⟨earlier,
    (removal.deletions.foldl Deletion.step ⟨replica.tables, 0⟩).changed, ?_, ?_⟩
  · have outcomes : removal.block.outcomes replica.dialect replica.tables = _ :=
      Answer.bind_eq_ok_iff.mpr ⟨_, done, rfl⟩
    have whole :
        (removal.block.tables replica >>=
            removal.block.outcomes replica.dialect) = _ :=
      Answer.bind_eq_ok_iff.mpr ⟨_, Replica.openTables_of_open opened, outcomes⟩
    rw [ran, Block.run]
    simp only [whole, tables]
    rfl
  · rw [ran, reply]

end Removal

end CachedDirectory
