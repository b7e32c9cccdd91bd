import CachedDirectory.Proofs.GroupClosures
import CachedDirectory.Proofs.LiveWalks
import CachedDirectory.Proofs.PagePrefixes

/-!
# Copying all records

A replica copies all records of a kind page by page. A page that is not full
ends the loop, and one that is full is followed by another one, so a last page
may be empty. What is stored in the end does not depend on the length of a page:
each record has been written once, in the order of the roster.
-/

namespace CachedDirectory

open Text

namespace SyncCall

/-- The call that copies a record of a kind. -/
def upsertOne : MemberKind → String → SyncCall
  | .group => upsertGroup
  | .user => upsertUser

variable {replica : Replica} {roster : Roster} {kind : MemberKind}

/-- A record that the roster lists is stored under its own id. -/
theorem run_upsertOne (sound : roster.Sound) (opened : replica.isOpen = true)
    (granted : roster.isDenied = false) {record : Record}
    (listed : record ∈ roster.recordsOf kind)
    (named : isBlank record.id = false) :
    (upsertOne kind record.id).run ⟨replica, roster⟩ =
      (some (.ok .done), ⟨replica.writing [record], roster⟩) := by
  cases kind with
  | group =>
      obtain ⟨group, member, rfl⟩ := List.mem_map.mp listed
      exact Session.run_upsertGroup ⟨replica, roster⟩ granted opened
        (sound.group?_of_mem_groups member) named
  | user =>
      obtain ⟨user, member, rfl⟩ := List.mem_map.mp listed
      exact Session.run_upsertUser ⟨replica, roster⟩ granted opened
        (sound.user?_of_mem_users member) named

/-- Copying records one by one writes their rows one after the other. -/
theorem afterCalls_upsertOne (sound : roster.Sound)
    (opened : replica.isOpen = true) (granted : roster.isDenied = false)
    {records : List Record}
    (listed : ∀ record ∈ records, record ∈ roster.recordsOf kind)
    (named : ∀ record ∈ records, isBlank record.id = false) :
    Replica.afterCalls roster replica
      (records.map fun record => upsertOne kind record.id) =
      replica.writing records := by
  induction records generalizing replica with
  | nil => rfl
  | cons record rest inductionHypothesis =>
      have first :=
        run_upsertOne sound opened granted (listed record List.mem_cons_self)
        (named record List.mem_cons_self)
      have stillOpen : (replica.writing [record]).isOpen = true := opened
      have later := inductionHypothesis stillOpen
        (fun other member => listed other (List.mem_cons_of_mem record member))
        (fun other member => named other (List.mem_cons_of_mem record member))
      rw [Replica.writing_cons, ← later]
      show Replica.afterCalls roster
        ((upsertOne kind record.id).run ⟨replica, roster⟩).2.replica _ = _
      rw [first]

/-- However many rounds more than its pages the loop has, it ends after
these. -/
theorem pageThrough_upsertPage (opened : replica.isOpen = true)
    (granted : roster.isDenied = false)
    (named : ∀ record ∈ roster.recordsOf kind, isBlank record.id = false)
    {length rounds : Nat} (positive : 0 < length)
    (enough : (roster.recordsOf kind).length / length < rounds) :
    pageThrough (Session.upsertPage kind length) length rounds 0
      ⟨replica, roster⟩ =
      (some (.ok (roster.recordsOf kind).length),
        ⟨replica.writing (roster.recordsOf kind), roster⟩) := by
  have room := (Nat.div_lt_iff_lt_mul positive).mp enough
  have pages := Session.storesPages roster kind positive
  rw [Replica.run_pageThrough opened pages granted room, List.drop_zero,
    Record.tally_of_named named, Record.accepted_of_named named]
  simp [Except.map]

theorem run_upsertAll_of_named (opened : replica.isOpen = true)
    (paged : 0 < replica.pageSize) (granted : roster.isDenied = false)
    (named : ∀ record ∈ roster.recordsOf kind, isBlank record.id = false) :
    (upsertAll kind).run ⟨replica, roster⟩ =
      (some (.ok (.count (roster.recordsOf kind).length)),
        ⟨replica.writing (roster.recordsOf kind), roster⟩) := by
  rw [run_upsertAll_of_open opened paged granted, Record.tally_of_named named,
    Record.accepted_of_named named]
  rfl

/-- Whether copying all records of a kind gives their number and leads from a
replica to another one, which has gained these records and nothing else. -/
structure CopiesAll (replica : Replica) (roster : Roster) (kind : MemberKind)
    (after : Replica) :
    Prop where
  counted : (upsertAll kind).run ⟨replica, roster⟩ =
    (some (.ok (.count (roster.recordsOf kind).length)), ⟨after, roster⟩)
  /-- It comes to the same as copying each record once by itself. -/
  each : after = Replica.afterCalls roster replica
    ((roster.recordsOf kind).map fun record => upsertOne kind record.id)
  /-- The loop needs no more rounds than it has full pages and one more. -/
  ends : ∀ rounds, (roster.recordsOf kind).length / replica.pageSize < rounds →
    pageThrough (Session.upsertPage kind replica.pageSize)
      replica.pageSize rounds 0
        ⟨replica, roster⟩ =
      (some (.ok (roster.recordsOf kind).length), ⟨after, roster⟩)
  /-- With pages of another length the store becomes the same. -/
  repaged : ∀ settings converter other,
    Replica.connect settings converter replica.tables = .ok other →
      ∃ otherAfter,
        (upsertAll kind).run ⟨other, roster⟩ =
            (some (.ok (.count (roster.recordsOf kind).length)),
              ⟨otherAfter, roster⟩) ∧
          otherAfter.tables = after.tables
  gains : replica.tables.GainsOnly (roster.recordsOf kind) after.tables
  resetPending : after.tables.resetPending = replica.tables.resetPending

theorem copiesAll_writing (reached : replica.Reached) (sound : roster.Sound)
    (opened : replica.isOpen = true) (granted : roster.isDenied = false)
    (named : ∀ record ∈ roster.recordsOf kind, isBlank record.id = false) :
    CopiesAll replica roster kind
        (replica.writing (roster.recordsOf kind)) := by
  have paged := reached.hasRoom.paged
  have gains := Tables.gainsOnly_writing reached.sound.nodup_places
    (sound.nodup_places_recordsOf kind)
  constructor
  · exact run_upsertAll_of_named opened paged granted named
  · exact (afterCalls_upsertOne sound opened granted (fun _ member => member)
      named).symm
  · intro rounds enough
    exact pageThrough_upsertPage opened granted named paged enough
  · intro settings converter other connected
    have otherOpen : other.isOpen = true := Replica.isOpen_of_connect connected
    have otherPaged := (Replica.hasRoom_of_connect connected).paged
    refine ⟨_, run_upsertAll_of_named otherOpen otherPaged granted named, ?_⟩
    show other.tables.writing _ = replica.tables.writing _
    rw [Replica.tables_of_connect connected]
  · exact gains
  · exact Tables.resetPending_congr gains.marks

/-- If the roster grants access and no record of a kind has a blank id, copying
all records of the kind ends and gives their number. It comes to the same as
copying each of them once by itself, whatever the length of a page is, also
none, which counts as one. The rows of other records stay, as do the edges and
the marks, and with these whether a reset is pending. If the roster denies
access, or the store is closed and there is a record to be stored, the call
fails and does nothing. -/
theorem upsertAll_is_upserting_each (reached : replica.Reached)
    (edits : List RosterEdit) (kind : MemberKind) :
    let roster := RosterEdit.applyAll {} edits
    let call := upsertAll kind
    (∀ record ∈ roster.recordsOf kind, isBlank record.id = false) →
    (roster.isDenied = false → replica.isOpen = true →
      ∃ after, CopiesAll replica roster kind after) ∧
    (roster.isDenied = true →
      call.run ⟨replica, roster⟩ =
        (some (.error Roster.denial), ⟨replica, roster⟩)) ∧
    (replica.isOpen = false → ∃ answer,
      call.run ⟨replica, roster⟩ = (some answer, ⟨replica, roster⟩) ∧
        (roster.recordsOf kind = [] ∧ answer = .ok (.count 0) ∨
          ∃ error, answer = .error error)) := by
  intro roster call named
  have paged := reached.hasRoom.paged
  refine ⟨fun granted opened =>
    ?_, run_upsertAll_of_denied paged, fun closed => ?_⟩
  · exact ⟨_,
      copiesAll_writing reached (Roster.sound_applyAll edits) opened
        granted named⟩
  · rcases run_upsertAll_of_closed paged closed with
        ⟨nothing, ran⟩ | ⟨error, ran⟩
    · exact ⟨_, ran, Or.inl ⟨nothing, rfl⟩⟩
    · exact ⟨_, ran, Or.inr ⟨error, rfl⟩⟩

/-- One group that the sample has too, and one that it does not have. -/
def twoGroups : List RosterEdit :=
  [.putGroup ⟨"STAFF", some "Those who stay", [], []⟩,
    .putGroup ⟨"Guests", none, [], []⟩]

/-- A replica with pages of a single record, which takes over the copy of the
sample. -/
def singly : Replica :=
  { Replica.unfilled with
    tables := Replica.filled.tables
    pageSize := 1 }

theorem connect_singly :
    Replica.connect { syncPageSize := 0 } .standard Replica.filled.tables =
        .ok singly := by
  have dialect :
      Dialect.ofUrl ({ syncPageSize := 0 } : Settings).sqlUrl =
          .ok .sqlite := by
    decide +kernel
  rw [Replica.connect, dialect]
  rfl

/-- Two groups are copied in a page that is not full, and in two full ones and
an empty one. -/
theorem upsertAll_is_upserting_each_of_two :
    ∃ after afterSingly,
      (upsertAll .group).run
        ⟨Replica.filled, RosterEdit.applyAll {} twoGroups⟩ =
          (some (.ok (.count 2)), ⟨after, RosterEdit.applyAll {} twoGroups⟩) ∧
        (upsertAll .group).run ⟨singly, RosterEdit.applyAll {} twoGroups⟩ =
            (some (.ok (.count 2)),
              ⟨afterSingly, RosterEdit.applyAll {} twoGroups⟩) ∧
          afterSingly.tables = after.tables ∧
            after.tables.entities.map
              (fun row => (row.id, row.description, row.version)) =
                [(.text "STAFF", .text "Those who stay", 2),
                  (.text "Ada", .null, 1),
                  (.text "Guests", .null, 1)] ∧
              after.tables.edges = Replica.filled.tables.edges := by
  have opened : Replica.filled.isOpen = true := by decide +kernel
  have named : ∀ record ∈ (RosterEdit.applyAll {} twoGroups).recordsOf .group,
      isBlank record.id = false := by
    decide +kernel
  obtain ⟨copies, _⟩ :=
    upsertAll_is_upserting_each Replica.reached_filled twoGroups .group named
  obtain ⟨after, copiesAll⟩ := copies rfl opened
  obtain ⟨afterSingly, ranSingly, same⟩ :=
    copiesAll.repaged _ _ _ connect_singly
  have rows : ((upsertAll .group).run
      ⟨Replica.filled,
        RosterEdit.applyAll {} twoGroups⟩).2.replica.tables.entities.map
        (fun row => (row.id, row.description, row.version)) =
          [(.text "STAFF", .text "Those who stay", 2), (.text "Ada", .null, 1),
            (.text "Guests", .null, 1)] := by
    decide +kernel
  rw [copiesAll.counted] at rows
  exact ⟨after, afterSingly, copiesAll.counted, ranSingly, same, rows,
    copiesAll.gains.edges⟩

/-- A roster that denies access hands out no record, whatever ids its records
have. -/
theorem upsertAll_of_denied :
    let roster :=
      RosterEdit.applyAll {} [.putGroup ⟨"a", none, [], []⟩, .deny true]
    Replica.unfilled.Reached ∧
      (roster.recordsOf .group).length = 1 ∧
        (∀ record ∈ roster.recordsOf .group, isBlank record.id = false) ∧
          ((upsertAll .group).run ⟨Replica.unfilled, roster⟩).1 =
              some (.error Roster.denial) :=
  ⟨Replica.reached_unfilled, by decide +kernel, by decide +kernel,
    by decide +kernel⟩

end SyncCall

end CachedDirectory
