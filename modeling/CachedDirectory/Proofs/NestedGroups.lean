import CachedDirectory.Proofs.LiveWalks
import CachedDirectory.Proofs.MemoTransparency
import CachedDirectory.Proofs.PendingResets
import CachedDirectory.Proofs.ResyncProgress

/-!
# Nested groups of a replica and live

A resynchronization leaves out the edges without a record at one of their ends.
The edges that are left lead from a member to the same groups as the walk of a
live directory, which passes over groups without a record. Both answers are
therefore rolls of the same ids, and a member without a record is found in
neither way.
-/

namespace CachedDirectory

open Text

namespace Roster

variable {roster : Roster} {tables : Tables} {kind : MemberKind}
  {id key : String}

theorem connects_iff {edge : Membership} : roster.connects edge = true ↔
    (roster.group? edge.groupId).isSome = true ∧
      roster.knows edge.memberKind edge.memberId = true := by
  rw [connects, Bool.and_eq_true]
  cases edge.memberKind <;> rfl

theorem knows_congr {other : String} (same : fold id = fold other) :
    roster.knows kind id = roster.knows kind other := by
  cases kind with
  | group => exact congrArg Option.isSome (group?_congr same)
  | user =>
      show (roster.user? id).isSome = (roster.user? other).isSome
      rw [user?, user?, same]

variable (copied : roster.IsCopiedTo tables)

include copied

/-- The stored edges lead to groups with records only. -/
theorem IsCopiedTo.ancestor_of_stored {above : SqlValue}
    (ancestor : tables.Ancestor (.text kind.name) (.text (fold id)) above) :
    ∃ key, above = .text key ∧ roster.Ancestor kind (fold id) key := by
  induction ancestor with
  | direct stored member =>
      obtain ⟨edge, listed, connected, rfl⟩ := (copied.mem_edges _).mp stored
      obtain ⟨sameKind, sameKey⟩ := Prod.mk.inj member
      have isMember : hasMember kind (fold id) edge = true :=
        hasMember_iff.mpr
          ⟨MemberKind.name_injective (SqlValue.text.inj sameKind),
            SqlValue.text.inj sameKey⟩
      exact ⟨_, rfl, .direct listed isMember (connects_iff.mp connected).1⟩
  | through stored group below inductionHypothesis =>
      obtain ⟨edge, listed, connected, rfl⟩ := (copied.mem_edges _).mp stored
      obtain ⟨key, sameKey, reached⟩ := inductionHypothesis
      obtain rfl : fold edge.memberId = key := SqlValue.text.inj sameKey
      have isGroup : edge.memberKind = .group :=
        MemberKind.name_injective (SqlValue.text.inj group)
      exact ⟨_, rfl,
        .through listed isGroup reached (connects_iff.mp connected).1⟩

/-- The edges from a member with a record to groups with records are stored. -/
theorem IsCopiedTo.stored_of_ancestor (known : roster.knows kind id = true)
    (ancestor : roster.Ancestor kind (fold id) key) :
    tables.Ancestor (.text kind.name) (.text (fold id)) (.text key) := by
  induction ancestor with
  | @direct edge listed member groupKnown =>
      obtain ⟨sameKind, sameKey⟩ := hasMember_iff.mp member
      have connected : roster.connects edge = true := by
        rw [connects_iff, sameKind, knows_congr sameKey]
        exact ⟨groupKnown, known⟩
      have stored := (copied.mem_edges _).mpr ⟨edge, listed, connected, rfl⟩
      refine Tables.Ancestor.direct stored ?_
      show (SqlValue.text edge.memberKind.name,
        SqlValue.text (fold edge.memberId)) = _
      rw [sameKind, sameKey]
  | @through edge listed group below groupKnown inductionHypothesis =>
      have connected : roster.connects edge = true := by
        rw [connects_iff, group]
        exact ⟨groupKnown, below.isSome_group? rfl⟩
      have stored := (copied.mem_edges _).mpr ⟨edge, listed, connected, rfl⟩
      refine Tables.Ancestor.through stored ?_ inductionHypothesis
      show SqlValue.text edge.memberKind.name = _
      rw [group]
      rfl

theorem IsCopiedTo.ancestor_iff (known : roster.knows kind id = true) :
    tables.Ancestor (.text kind.name) (.text (fold id)) (.text key) ↔
      roster.Ancestor kind (fold id) key := by
  refine ⟨fun ancestor => ?_, copied.stored_of_ancestor known⟩
  obtain ⟨_, same, reached⟩ := copied.ancestor_of_stored ancestor
  cases same
  exact reached

theorem IsCopiedTo.exists_row_iff {property : SqlValue → Prop} :
    (∃ row ∈ tables.entities,
      row.kind = .text EntityKind.group.name ∧ row.id = .text id ∧
        property row.key) ↔
      ∃ group ∈ roster.groups, group.id = id ∧ property (.text (fold id)) := by
  rw [copied.entities]
  constructor
  · rintro ⟨row, listed, kindCell, idCell, holds⟩
    rcases List.mem_append.mp listed with ofGroup | ofUser
    · obtain ⟨group, member, rfl⟩ := List.mem_map.mp ofGroup
      obtain rfl : group.id = id := SqlValue.text.inj idCell
      exact ⟨group, member, rfl, holds⟩
    · obtain ⟨user, _, rfl⟩ := List.mem_map.mp ofUser
      exact absurd (SqlValue.text.inj kindCell) (by decide)
  · rintro ⟨group, listed, rfl, holds⟩
    exact ⟨_, List.mem_append_left _ (List.mem_map_of_mem listed), rfl,
      rfl, holds⟩

end Roster

/-- What is found in a copy of a roster is what a live directory finds. -/
theorem Roster.IsCopiedTo.effectiveGroups_eq {roster : Roster} {tables : Tables}
    (copied : roster.IsCopiedTo tables) (rosterSound : roster.Sound)
    (sound : tables.Sound) (granted : roster.isDenied = false) (live : Live)
    (kind : MemberKind) (id : String) :
    (live.effectiveGroups kind id roster).1 =
      some (Replica.resolve kind id tables) ∧
      ((∃ groups, Replica.resolve kind id tables = .ok groups) ∨
        Replica.resolve kind id tables =
            .error (.notFound kind.entityKind id)) := by
  have holds := Tables.holds_eq_knows rosterSound copied.entities kind id
  unfold Replica.resolve
  dsimp only
  rw [holds]
  rcases live.effectiveGroups_spec rosterSound granted kind id with
    ⟨missing, answered⟩ | ⟨known, groups, answered, roll⟩
  · rw [answered, missing]
    exact ⟨rfl, Or.inr rfl⟩
  · have stored : IsRoll _
        ((tables.effectiveGroupRows (.text kind.name)
          (.text (fold id))).filterMap
          fun row => row.id.received.text?) := sound.isRoll_effectiveGroups
    have same := roll.eq stored fun other => by
      rw [copied.exists_row_iff, copied.ancestor_iff known]
    rw [answered, known, same]
    exact ⟨rfl, Or.inl ⟨_, rfl⟩⟩

namespace Replica

/-- Whether an operation with an authority refreshes a replica from a roster:
the replica is resynchronized from it, questions are asked, or time passes. -/
inductive Refreshes (roster : Roster) :
    (α : Type) → [Authority α] → α → Operation α → Prop
  | resync (pageSize : Nat) :
      Refreshes roster Roster roster (.resync pageSize)
  | read (α : Type) [Authority α] (authority : α) (reading : Reading) :
      Refreshes roster α authority (.read reading)
  | pass (α : Type) [Authority α] (authority : α) (nanoseconds : Nat) :
      Refreshes roster α authority (.pass nanoseconds)

/-- What becomes of a replica that waits for a reset and is then refreshed from
one roster, any number of times. -/
def RefreshedFrom (roster : Roster) (replica : Replica) : Prop :=
  ReachedBy (fun replica => replica.tables.resetPending = true)
    (Refreshes roster) replica

/-- Whether a replica answers from a copy of a roster and remembers what is
found there. -/
structure IsCurrent (roster : Roster) (replica : Replica) : Prop where
  granted : roster.isDenied = false
  opened : replica.isOpen = true
  marked : replica.tables.resetPending = false
  copied : roster.IsCopiedTo replica.tables
  sound : replica.tables.Sound
  rightly : replica.RemembersRightly

variable {roster : Roster} {replica : Replica}

theorem IsCurrent.readTables_eq (current : replica.IsCurrent roster) :
    replica.readTables = .ok replica.tables := by
  rw [readTables, openTables_of_open current.opened]
  show (if replica.tables.resetPending then _ else _ : Answer Tables) = _
  rw [current.marked]
  rfl

/-- A resynchronization that succeeds makes the replica current, also if it was
so before. -/
theorem isCurrent_of_resync (sound : roster.Sound)
    (state : replica.tables.resetPending = true ∨ replica.IsCurrent roster)
    {pageSize : Nat} {report : SyncReport} {after : Session Roster}
    (synchronized :
      Session.resync ⟨replica, roster⟩ pageSize = (some (.ok report), after)) :
    after.replica.IsCurrent roster := by
  rcases state with pending | current
  · rcases Bool.eq_false_or_eq_true replica.isOpen with opened | closed
    · obtain ⟨answer, changed, ran, copies⟩ :=
        Session.exists_resync sound pageSize pending
      obtain ⟨answered, rfl⟩ := Prod.mk.inj (ran.symm.trans synchronized)
      cases answered
      obtain ⟨rfl, entities, edges, marked, granted⟩ := copies report rfl
      obtain ⟨stillOpen, tables⟩ := Session.sound_of_resync synchronized rfl
      refine ⟨granted, stillOpen, marked, sound.isCopiedTo entities edges,
        tables, ?_⟩
      rw [Session.resync_of_pending opened pending] at synchronized
      have forgotten : replica.afterReset.RemembersRightly :=
        remembersRightly_of_nothing rfl
      have steps := Resync.steps_run (2 * Authority.extent roster + 6)
        ⟨max pageSize 1, { performed := true }, .groups⟩
          ⟨replica.afterReset, roster⟩
      rw [synchronized] at steps
      exact forgotten.steps steps
    · rw [Session.resync_of_closed closed] at synchronized
      cases synchronized
  · rw [Session.resync_of_current current.opened current.marked] at synchronized
    cases synchronized
    exact current

theorem IsCurrent.reading (current : replica.IsCurrent roster)
    (reading : Reading) : (reading.run replica).IsCurrent roster := by
  have rightly := current.rightly.move (.read replica reading)
  obtain ⟨memo, same⟩ := reading.exists_memo replica
  rw [same] at rightly ⊢
  exact ⟨current.granted, current.opened, current.marked, current.copied,
    current.sound, rightly⟩

/-- A replica that takes over the store of a current one is current. -/
theorem IsCurrent.reconnect {earlier : Replica}
    (current : earlier.IsCurrent roster) {settings : Settings}
    {converter : Converter}
    (connected : connect settings converter earlier.tables = .ok replica) :
    replica.IsCurrent roster := by
  have same := tables_of_connect connected
  refine ⟨current.granted, isOpen_of_connect connected, ?_, ?_, ?_,
    remembersRightly_of_connect connected⟩
  · rw [same]
    exact current.marked
  · rw [same]
    exact current.copied
  · rw [same]
    exact current.sound

/-- Whether a replica waits for a reset or is current. -/
def IsPendingOrCurrent (roster : Roster) (replica : Replica) : Prop :=
  replica.tables.resetPending = true ∨ replica.IsCurrent roster

theorem IsPendingOrCurrent.resync (sound : roster.Sound)
    (state : replica.IsPendingOrCurrent roster) (pageSize : Nat) :
    (Session.resync ⟨replica, roster⟩ pageSize).2.replica.IsPendingOrCurrent
      roster := by
  rcases result : Session.resync ⟨replica, roster⟩ pageSize with ⟨answer, after⟩
  by_cases success : ∃ report, answer = some (.ok report)
  · obtain ⟨report, rfl⟩ := success
    exact Or.inr (isCurrent_of_resync sound state result)
  · rcases state with pending | current
    · left
      have unsuccessful : ∀ report,
          (Session.resync ⟨replica, roster⟩ pageSize).1 ≠
            some (.ok report) := by
        intro report succeeded
        rw [result] at succeeded
        exact success ⟨report, succeeded⟩
      have kept := Session.pending_resync pending unsuccessful
      rw [result] at kept
      exact kept
    · rw [Session.resync_of_current current.opened current.marked] at result
      cases result
      exact Or.inr current

/-- Such a replica waits for a reset or is current. -/
theorem RefreshedFrom.state (sound : roster.Sound)
    (refreshed : RefreshedFrom roster replica) :
    replica.IsPendingOrCurrent roster := by
  induction refreshed with
  | begin pending => exact Or.inl pending
  | reconnect _ settings converter connected inductionHypothesis =>
      rcases inductionHypothesis with pending | current
      · left
        rw [tables_of_connect connected]
        exact pending
      · exact Or.inr (current.reconnect connected)
  | @operate replica _ α _ authority operation refreshes inductionHypothesis =>
      cases refreshes with
      | resync pageSize => exact inductionHypothesis.resync sound pageSize
      | read _ _ reading =>
          rcases inductionHypothesis with pending | current
          · left
            obtain ⟨memo, same⟩ := reading.exists_memo replica
            dsimp only [Operation.run]
            rw [same]
            exact pending
          · exact Or.inr (current.reading reading)
      | pass _ _ nanoseconds =>
          rcases inductionHypothesis with pending | current
          · exact Or.inl pending
          · exact Or.inr
              { granted := current.granted
                opened := current.opened
                marked := current.marked
                copied := current.copied
                sound := current.sound
                rightly := current.rightly }

/-- After a resynchronization that succeeded, the groups of every member are
those that a live directory finds, in the same order, and a member that one does
not find is not found by the other. -/
theorem effectiveGroups_agree (edits : List RosterEdit)
    (refreshed : replica.RefreshedFrom (RosterEdit.applyAll {} edits))
    {pageSize : Nat} {report : SyncReport} {after : Session Roster}
    (synchronized :
      Session.resync ⟨replica, RosterEdit.applyAll {} edits⟩ pageSize =
        (some (.ok report), after)) (live : Live) (kind : MemberKind)
    (id : String) :
    (live.effectiveGroups kind id (RosterEdit.applyAll {} edits)).1 =
        some ((effectiveGroups kind id).run after.replica).1 ∧
      ((∃ groups,
        ((effectiveGroups kind id).run after.replica).1 = .ok groups) ∨
        ((effectiveGroups kind id).run after.replica).1 =
          .error (.notFound kind.entityKind id)) := by
  have rosterSound := Roster.sound_applyAll edits
  have current :=
    isCurrent_of_resync rosterSound (refreshed.state rosterSound) synchronized
  obtain ⟨memo, answered, _⟩ := current.rightly.effectiveGroups kind id
  have found : ((effectiveGroups kind id).run after.replica).1 =
      resolve kind id after.replica.tables := by
    rw [answered, current.readTables_eq]
    rfl
  rw [found]
  exact current.copied.effectiveGroups_eq rosterSound current.sound
    current.granted live kind id

/-- A roster of a group that is a member of itself. -/
def selfContained : List RosterEdit :=
  [.putGroup ⟨"Staff", none, [], []⟩, .addEdge ⟨"staff", .group, "STAFF"⟩]

theorem effectiveGroups_agree_selfContained :
    ∃ after,
      Session.resync ⟨unfilled, RosterEdit.applyAll {} selfContained⟩ 2 =
          (some (.ok ⟨true, 1, 0, 1, 0⟩), after) ∧
        (Live.effectiveGroups ⟨.ofSettings {}, .standard⟩ .group "sTaff"
            (RosterEdit.applyAll {} selfContained)).1 =
          some ((effectiveGroups .group "sTaff").run after.replica).1 ∧
          ((effectiveGroups .group "sTaff").run after.replica).1 =
              .ok ["Staff"] := by
  have answered :
      (Session.resync ⟨unfilled, RosterEdit.applyAll {} selfContained⟩ 2).1 =
        some (.ok ⟨true, 1, 0, 1, 0⟩) := by
    decide +kernel
  have refreshed :
      unfilled.RefreshedFrom (RosterEdit.applyAll {} selfContained) :=
    .begin (by decide)
  have agree :=
    effectiveGroups_agree selfContained refreshed (Prod.ext answered rfl)
    ⟨.ofSettings {}, .standard⟩ .group "sTaff"
  exact ⟨_, Prod.ext answered rfl, agree.1, by decide +kernel⟩

end Replica

end CachedDirectory
