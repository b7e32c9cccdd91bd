import CachedDirectory.Proofs.Rosters
import CachedDirectory.Proofs.Runs

/-!
# Integrity of the store

Whatever calls have been made, in whatever order, and however the authority
behaved, the store holds rows of groups and users only, each once and with the
folded copies of its texts, and no edge is left without its group or its member.
-/

namespace CachedDirectory

open Relation Text

/-- What a replica can become that began with an empty store, by all operations
but statements of the user's own. -/
def Replica.Reached (replica : Replica) : Prop :=
  ReachedBy
    (fun replica => ∃ settings converter,
      Replica.connect settings converter {} = .ok replica)
    (fun _ _ _ operation => operation.runsStatements = false) replica

/-- Whether a cell is the folded copy of another one: empty if that is empty,
else its folded text. -/
def SqlValue.IsFoldOf (key value : SqlValue) : Prop :=
  (value = .null ∧ key = .null) ∨ ∃ content,
    value = .text content ∧ key = .text (fold content)

/-- What a store has to keep to for joins, searches and closures to lose
nothing. -/
structure Tables.Coherent (tables : Tables) : Prop where
  distinctEntities : tables.entities.Pairwise fun left right =>
    ¬(left.kind = right.kind ∧ left.key = right.key)
  kinds : ∀ row ∈ tables.entities,
    row.kind = .text EntityKind.group.name ∨
      row.kind = .text EntityKind.user.name
  ids : ∀ row ∈ tables.entities,
    ∃ id, row.id = .text id ∧ row.key = .text (fold id) ∧ isBlank id = false
  foldedTexts : ∀ row ∈ tables.entities,
    row.descriptionKey.IsFoldOf row.description ∧
      row.displayNameKey.IsFoldOf row.displayName ∧
        row.firstNameKey.IsFoldOf row.firstName ∧
          row.lastNameKey.IsFoldOf row.lastName ∧
            row.emailKey.IsFoldOf row.email
  distinctEdges : tables.edges.Pairwise fun left right =>
    ¬(left.groupKey = right.groupKey ∧ left.memberKind = right.memberKind ∧
      left.memberKey = right.memberKey)
  edgeGroups : ∀ edge ∈ tables.edges, ∃ row ∈ tables.entities,
    row.kind = .text EntityKind.group.name ∧ row.key = edge.groupKey
  edgeMembers : ∀ edge ∈ tables.edges, ∃ row ∈ tables.entities,
    row.kind = edge.memberKind ∧ row.key = edge.memberKey

namespace SqlValue

theorem isFoldOf_foldedCell (value : Option String) :
    (EntityRow.foldedCell value).IsFoldOf (.ofText? value) := by
  cases value with
  | none => exact Or.inl ⟨rfl, rfl⟩
  | some content => exact Or.inr ⟨content, rfl, rfl⟩

theorem isFoldOf_null : null.IsFoldOf null :=
  Or.inl ⟨rfl, rfl⟩

end SqlValue

namespace Tables

variable {tables : Tables}

theorem mem_places_iff {kind key : SqlValue} :
    (kind, key) ∈ tables.places ↔ ∃ row ∈ tables.entities,
        row.kind = kind ∧ row.key = key := by
  simp [places, EntityRow.place]

theorem Sound.coherent (sound : tables.Sound) : tables.Coherent where
  distinctEntities := by
    have distinct := List.pairwise_map.mp sound.nodup_places
    exact distinct.imp fun different same => different (Prod.ext same.1 same.2)
  kinds row member := by
    cases sound.isRecord row member with
    | group => exact Or.inl rfl
    | user => exact Or.inr rfl
  ids row member := by
    cases sound.isRecord row member with
    | group group _ named => exact ⟨group.id, rfl, rfl, named⟩
    | user user _ named => exact ⟨user.id, rfl, rfl, named⟩
  foldedTexts row member := by
    cases sound.isRecord row member with
    | group group =>
        exact ⟨SqlValue.isFoldOf_foldedCell group.description,
          SqlValue.isFoldOf_null,
          SqlValue.isFoldOf_null, SqlValue.isFoldOf_null,
            SqlValue.isFoldOf_null⟩
    | user user =>
        exact ⟨SqlValue.isFoldOf_null,
          SqlValue.isFoldOf_foldedCell user.displayName,
          SqlValue.isFoldOf_foldedCell user.firstName,
            SqlValue.isFoldOf_foldedCell user.lastName,
          SqlValue.isFoldOf_foldedCell user.email⟩
  distinctEdges := by
    apply sound.nodup_edges.imp
    rintro ⟨_, _, _⟩ ⟨_, _, _⟩ different ⟨rfl, rfl, rfl⟩
    exact different rfl
  edgeGroups edge member := mem_places_iff.mp (sound.ends edge member).1
  edgeMembers edge member := mem_places_iff.mp (sound.ends edge member).2

end Tables

namespace Replica

variable {replica after : Replica}

theorem Step.sound (step : Step replica after) (sound : replica.tables.Sound) :
    after.tables.Sound := by
  cases step with
  | commit tables change => exact change.sound sound
  | forget => exact sound

theorem sound_of_steps (steps : ReflTransGen Step replica after)
    (sound : replica.tables.Sound) :
    after.tables.Sound := by
  induction steps with
  | refl => exact sound
  | tail _ step inductionHypothesis => exact step.sound inductionHypothesis

theorem tables_of_connect {settings : Settings} {converter : Converter}
    {tables : Tables}
    (connected : connect settings converter tables = .ok replica) :
    replica.tables = tables := by
  obtain ⟨dialect, _, equality⟩ := Answer.bind_eq_ok_iff.mp connected
  cases equality
  rfl

theorem isOpen_of_connect {settings : Settings} {converter : Converter}
    {tables : Tables}
    (connected : connect settings converter tables = .ok replica) :
    replica.isOpen = true := by
  obtain ⟨dialect, _, equality⟩ := Answer.bind_eq_ok_iff.mp connected
  cases equality
  rfl

/-! ## Replicas that are reached -/

theorem Reached.connect (settings : Settings) (converter : Converter)
    (connected : Replica.connect settings converter {} = .ok replica) :
    Reached replica :=
  .begin ⟨settings, converter, connected⟩

theorem Reached.call {α : Type} [Authority α] (reached : Reached replica)
    (authority : α) (call : SyncCall) :
    Reached (call.run ⟨replica, authority⟩).2.replica :=
  .operate reached authority (.call call) rfl

theorem Reached.resync {α : Type} [Authority α] (reached : Reached replica)
    (authority : α) (pageSize : Nat) :
    Reached (Session.resync ⟨replica, authority⟩ pageSize).2.replica :=
  .operate reached authority (.resync pageSize) rfl

theorem Reached.runAll {α : Type} [Authority α] (reached : Reached replica)
    (authority : α) {operations : List (Operation α)}
    (own : ∀ operation ∈ operations, operation.runsStatements = false) :
    Reached (Operation.runAll operations ⟨replica, authority⟩).replica :=
  @ReachedBy.runAll _ _ α _ ⟨replica, authority⟩ reached operations
    fun operation member _ => own operation member

/-- What holds of every replica that is connected, be it over an empty store or
over that of another one of which it holds, and is kept by every move and by
closing holds of whatever a replica can become. -/
theorem Reached.invariant {property : Replica → Prop}
    (connected : ∀ settings converter tables replica,
      Replica.connect settings converter tables = .ok replica →
        (tables = {} ∨ ∃ earlier, property earlier ∧ tables = earlier.tables) →
          property replica)
    (moved : ∀ replica after, Move replica after → property replica →
      property after)
    (closed : ∀ replica, property replica → property replica.close)
    (reached : Reached replica) : property replica := by
  have moves : ∀ {replica after}, ReflTransGen Move replica after →
      property replica → property after := by
    intro replica after moves holds
    induction moves with
    | refl => exact holds
    | tail _ move inductionHypothesis =>
        exact moved _ _ move inductionHypothesis
  induction reached with
  | begin begun =>
      obtain ⟨settings, converter, first⟩ := begun
      exact connected settings converter {} _ first (Or.inl rfl)
  | @reconnect earlier _ settings converter replica again inductionHypothesis =>
      exact connected settings converter earlier.tables replica again
        (Or.inr ⟨earlier, inductionHypothesis, rfl⟩)
  | @operate replica _ α _ authority operation own inductionHypothesis =>
      cases closes : operation.closes with
      | false =>
          exact moves (Operation.moves_run own closes ⟨replica, authority⟩)
            inductionHypothesis
      | true =>
          rw [Operation.replica_run_of_closes closes]
          exact closed replica inductionHypothesis

theorem Reached.sound (reached : Reached replica) : replica.tables.Sound := by
  refine @invariant replica (fun replica => replica.tables.Sound) ?_ ?_
    (fun _ sound => sound) reached
  · rintro settings converter tables replica connected
      (rfl | ⟨earlier, sound, rfl⟩)
    · rw [tables_of_connect connected]
      exact Tables.sound_empty
    · rw [tables_of_connect connected]
      exact sound
  · intro replica after move sound
    cases move with
    | step _ step => exact step.sound sound
    | read reading =>
        obtain ⟨memo, same⟩ := reading.exists_memo replica
        rw [same]
        exact sound
    | pass => exact sound

/-- The integrity of every store that calls have led to. -/
theorem coherent_of_reached (reached : Reached replica) :
    replica.tables.Coherent :=
  reached.sound.coherent

/-- A replica with the default settings over an empty store. -/
def unfilled : Replica where
  tables := {}
  dialect := .sqlite
  fixed := .ofSettings {}
  converter := .standard
  pageSize := 500
  bufferSize := 64
  memo := .empty 1024 (60 * RetryPolicy.second)

/-- That replica when it has copied the sample of a roster. -/
def filled : Replica :=
  (Session.resync ⟨unfilled, RosterEdit.applyAll {} Roster.sample⟩ 1).2.replica

theorem connect_unfilled : connect {} .standard {} = .ok unfilled := by
  have dialect : Dialect.ofUrl ({} : Settings).sqlUrl = .ok .sqlite := by
    decide +kernel
  rw [connect, dialect]
  rfl

theorem reached_unfilled : Reached unfilled :=
  .connect {} .standard connect_unfilled

theorem reached_filled : Reached filled :=
  reached_unfilled.resync (RosterEdit.applyAll {} Roster.sample) 1

theorem coherent_filled :
    filled.tables.Coherent ∧ filled.tables.entities.length = 2 ∧
        filled.tables.edges.length = 1 :=
  ⟨coherent_of_reached reached_filled, by decide +kernel, by decide +kernel⟩

end Replica

end CachedDirectory
