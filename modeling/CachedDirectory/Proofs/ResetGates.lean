import CachedDirectory.Proofs.MemoTransparency
import CachedDirectory.Proofs.Paging
import CachedDirectory.Proofs.Rebuilding

/-!
# Reset gates

While a reset is pending a replica refuses to read what is stored, whatever it
has read or remembered before. Every question has its own way to the store, and
one of them does not lead there: a search in a window without room reads no
page, so it is answered by a cursor without entries as if the store were
complete.
-/

namespace CachedDirectory

open Text

/-- What a replica can become that began over any content of its store, by all
operations that count their changes. -/
def Replica.Lived (replica : Replica) : Prop :=
  ReachedBy
    (fun replica => ∃ settings converter tables,
      Replica.connect settings converter tables = .ok replica)
    (fun _ _ _ operation => operation.isCounted = true) replica

namespace Replica

variable {replica after : Replica}

theorem Move.keeps (move : Move replica after) :
    after.bufferSize = replica.bufferSize ∧ after.isOpen = replica.isOpen := by
  cases move with
  | step _ step => cases step <;> exact ⟨rfl, rfl⟩
  | read reading =>
      obtain ⟨memo, same⟩ := reading.exists_memo replica
      rw [same]
      exact ⟨rfl, rfl⟩
  | pass => exact ⟨rfl, rfl⟩

theorem Turn.keeps {closes : Bool} (turn : Turn closes replica after) :
    after.bufferSize = replica.bufferSize ∧
      after.isOpen = (!closes && replica.isOpen) := by
  cases turn with
  | moves moves =>
      induction moves with
      | refl => exact ⟨rfl, rfl⟩
      | tail _ move inductionHypothesis =>
          obtain ⟨sameSize, sameState⟩ := move.keeps
          exact ⟨sameSize.trans inductionHypothesis.1,
            sameState.trans inductionHypothesis.2⟩
  | close => exact ⟨rfl, rfl⟩
  | block =>
      unfold Block.run
      dsimp only
      split <;> exact ⟨rfl, rfl⟩

theorem Lived.runAll {α : Type} [Authority α] (lived : Lived replica)
    (authority : α) {operations : List (Operation α)}
    (counted : ∀ operation ∈ operations, operation.isCounted = true) :
    Lived (Operation.runAll operations ⟨replica, authority⟩).replica :=
  @ReachedBy.runAll _ _ α _ ⟨replica, authority⟩ lived operations
    fun operation member _ => counted operation member

theorem Lived.buffered (lived : Lived replica) : 0 < replica.bufferSize := by
  induction lived with
  | begin begun =>
      obtain ⟨settings, converter, tables, connected⟩ := begun
      exact (hasRoom_of_connect connected).buffered
  | reconnect _ settings converter connected =>
      exact (hasRoom_of_connect connected).buffered
  | @operate replica _ α _ authority operation counted inductionHypothesis =>
      have turn := Operation.turn_run counted ⟨replica, authority⟩
      rw [turn.keeps.1]
      exact inductionHypothesis

/-- As long as the store is open, what is remembered is right. -/
theorem Lived.rightly (lived : Lived replica) (opened : replica.isOpen = true) :
    replica.RemembersRightly := by
  induction lived with
  | begin begun =>
      obtain ⟨settings, converter, tables, connected⟩ := begun
      exact remembersRightly_of_connect connected
  | reconnect _ settings converter connected _ =>
      exact remembersRightly_of_connect connected
  | @operate replica _ α _ authority operation counted inductionHypothesis =>
      have turn := Operation.turn_run counted ⟨replica, authority⟩
      rw [turn.keeps.2, Bool.and_eq_true, Bool.not_eq_true'] at opened
      rw [opened.1] at turn
      exact (inductionHypothesis opened.2).turn turn

/-! ## The ways to the store -/

theorem readTables_of_pending
    (pending : (requireReset.run replica).1 = .ok true) :
    replica.readTables = .error .resetRequired := by
  obtain ⟨tables, opened, flagged⟩ := Answer.bind_eq_ok_iff.mp pending
  have waits : tables.resetPending = true := Except.ok.inj flagged
  rw [readTables, opened]
  exact if_pos waits

end Replica

namespace PageFeed

theorem lengthWithin_eq_zero_iff {pageLength : Nat} (positive : 0 < pageLength)
    (allowance : Option Nat) :
    lengthWithin pageLength allowance = 0 ↔ allowance = some 0 := by
  cases allowance with
  | none => simp [lengthWithin, Nat.ne_of_gt positive]
  | some rows =>
      have bounded : min rows pageLength = 0 ↔ rows = 0 := by omega
      simp [lengthWithin, bounded]

variable {α : Type} {source : PageSource α} {window : Option Window}
  {replica : Replica}

/-- A feed is refused when it is started, unless nothing may be read of it. -/
theorem start_of_refused {error : DirectoryError}
    (refused : replica.readTables = .error error)
    (buffered : 0 < replica.bufferSize) :
    start source window replica =
      if window.map (·.limit) = some 0 then .ok (unread source window replica)
      else .error error := by
  by_cases spent : window.map (·.limit) = some 0
  · rw [if_pos spent]
    exact if_pos ((lengthWithin_eq_zero_iff buffered _).mpr spent)
  · have positive :
        lengthWithin replica.bufferSize (window.map (·.limit)) ≠ 0 :=
      mt (lengthWithin_eq_zero_iff buffered _).mp spent
    unfold start
    rw [if_neg spent, if_neg positive, refused]
    rfl

end PageFeed

namespace Replica

variable {replica : Replica}

theorem lookup_of_refused {error : DirectoryError}
    (refused : replica.readTables = .error error) {kind : EntityKind}
    (persisted : kind.isPersisted = true) (id : String) :
    ((lookup kind id).run replica).1 = .error error := by
  unfold lookup
  simp only [Action.observe, if_pos persisted, refused]
  rfl

theorem count_of_refused {error : DirectoryError}
    (refused : replica.readTables = .error error) (kind : EntityKind) :
    ((count kind).run replica).1 = .error error := by
  unfold count read
  simp only [Action.observe, refused]
  rfl

theorem memberships_of_refused {error : DirectoryError}
    (refused : replica.readTables = .error error)
    (buffered : 0 < replica.bufferSize) :
    (memberships.run replica).1 = .error error := by
  unfold memberships
  simp only [Action.observe, PageFeed.start_of_refused refused buffered]
  rfl

/-- A remembered answer of the present generation would be given without a look
at the store, but as long as reading is refused there is none. -/
theorem effectiveGroups_of_refused {error : DirectoryError}
    (refused : replica.readTables = .error error)
    (rightly : replica.RemembersRightly) (kind : MemberKind) (id : String) :
    ((effectiveGroups kind id).run replica).1 = .error error := by
  obtain ⟨memo, answered, _⟩ := rightly.effectiveGroups kind id
  rw [answered, refused]
  rfl

theorem search_of_refused {error : DirectoryError}
    (refused : replica.readTables = .error error)
    (buffered : 0 < replica.bufferSize) {request : SearchRequest}
    {condition : Condition} (persisted : request.scope.isPersisted = true)
    (translated :
      request.filter.storedCondition request.scope replica.converter =
        .ok condition) :
    ((search request).run replica).1 =
      if request.window.map (·.limit) = some 0 then
        .ok (.paged (.ofFeed
          (.unread (searchSource replica.converter request.scope condition)
          request.window replica)))
      else .error error := by
  unfold search
  simp only [Action.observe, if_pos persisted, translated]
  show (PageFeed.start _ request.window replica >>= _) = _
  rw [PageFeed.start_of_refused refused buffered]
  split <;> rfl

theorem search_refused_iff {error : DirectoryError}
    (refused : replica.readTables = .error error)
    (buffered : 0 < replica.bufferSize) {request : SearchRequest}
    {condition : Condition} (persisted : request.scope.isPersisted = true)
    (translated :
      request.filter.storedCondition request.scope replica.converter =
        .ok condition) :
    ((search request).run replica).1 = .error error ↔
      request.window.map (·.limit) ≠ some 0 := by
  rw [search_of_refused refused buffered persisted translated]
  split <;> simp_all

/-- While a reset is pending every question for what is stored is refused,
however the replica came to be in that state and whatever it remembers. The one
exception are searches in windows without room. -/
theorem reads_await_reset (lived : Lived replica)
    (pending : (requireReset.run replica).1 = .ok true) :
    (∀ kind id, kind.isPersisted = true →
      ((lookup kind id).run replica).1 = .error .resetRequired) ∧
    (∀ kind, ((count kind).run replica).1 = .error .resetRequired) ∧
    (memberships.run replica).1 = .error .resetRequired ∧
    (∀ kind id,
      ((effectiveGroups kind id).run replica).1 = .error .resetRequired) ∧
    ∀ (request : SearchRequest) (condition : Condition),
      request.scope.isPersisted = true →
      request.filter.storedCondition request.scope replica.converter =
        .ok condition →
        (((search request).run replica).1 = .error .resetRequired ↔
          request.window.map (·.limit) ≠ some 0) := by
  have refused := readTables_of_pending pending
  obtain ⟨_, opened, _⟩ := Answer.bind_eq_ok_iff.mp pending
  have rightly := lived.rightly (isOpen_of_openTables opened)
  refine ⟨?_, ?_, ?_, ?_, ?_⟩
  · exact fun kind id persisted => lookup_of_refused refused persisted id
  · exact fun kind => count_of_refused refused kind
  · exact memberships_of_refused refused lived.buffered
  · exact fun kind id => effectiveGroups_of_refused refused rightly kind id
  · exact fun request condition persisted translated =>
      search_refused_iff refused lived.buffered persisted translated

/-- A replica that has copied the sample of a roster, has found the groups of
its user and is then told that it must be synchronized again. -/
def outdated : Replica :=
  let roster := RosterEdit.applyAll {} Roster.sample
  (Operation.runAll
    [.resync 1, .read (.effectiveGroups .user "ADA"), .call .markResetRequired]
    ⟨unfilled, roster⟩).replica

theorem lived_unfilled : Lived unfilled :=
  .begin ⟨{}, .standard, {}, connect_unfilled⟩

theorem lived_outdated : Lived outdated :=
  lived_unfilled.runAll (RosterEdit.applyAll {} Roster.sample) (by decide)

theorem reads_await_reset_outdated :
    (requireReset.run outdated).1 = .ok true ∧ outdated.memo.size = 1 ∧
      ((effectiveGroups .user "ada").run outdated).1 = .error .resetRequired ∧
        ((lookup .group "staff").run outdated).1 = .error .resetRequired ∧
          ((search ⟨.user, .present "id", some ⟨0, 5⟩⟩).run outdated).1 =
            .error .resetRequired := by
  have pending : (requireReset.run outdated).1 = .ok true := by decide +kernel
  obtain ⟨lookups, _, _, groups, searches⟩ :=
    reads_await_reset lived_outdated pending
  refine ⟨pending, by decide +kernel, groups .user "ada",
    lookups .group "staff" rfl, ?_⟩
  exact (searches ⟨.user, .present "id", some ⟨0, 5⟩⟩ (.present .id) rfl
    rfl).mpr (by decide)

/-- A search for users in a window without room is answered while a reset is
pending. -/
theorem search_without_room_is_answered :
    Lived unfilled ∧ (requireReset.run unfilled).1 = .ok true ∧
      ∃ condition cursor,
        (Filter.and []).storedCondition .user unfilled.converter =
          .ok condition ∧
          ((search ⟨.user, .and [], some ⟨0, 0⟩⟩).run unfilled).1 = .ok cursor ∧
            ((search ⟨.user, .and [], some ⟨0, 0⟩⟩).run unfilled).1 ≠
              .error .resetRequired ∧
              cursor.drain unfilled = .ok [] :=
  ⟨lived_unfilled, rfl, _, _, rfl, rfl, nofun, rfl⟩

end Replica

end CachedDirectory
