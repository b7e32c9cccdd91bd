import CachedDirectory.Proofs.CopiedGroups
import CachedDirectory.Proofs.Generations
import CachedDirectory.Proofs.Removals
import CachedDirectory.Proofs.WholeCopies

/-!
# Repeated calls

A call that keeps a replica in step may be made again. The second time it is
answered as the first time, and nothing changes but how often rows were written:
what it writes is there, what it removes is gone, and what the first call did
not come to is not reached by the second one either.
-/

namespace CachedDirectory

open Text

/-- An answer without its value: whether it is one, and the error if it is
not. -/
def Answer.outcome {α : Type} (answer : Answer α) : Answer PUnit :=
  answer.map fun _ => ⟨⟩

/-! ## Changes that are made twice -/

namespace Tables

variable {tables left right : Tables} {row : EntityRow}

/-- Whether two stores hold the same rows, however often these were written. -/
structure SameRows (left right : Tables) : Prop where
  records : left.records = right.records
  edges : left.edges = right.edges
  marks : left.marks = right.marks

theorem SameRows.of_eq (same : left = right) : left.SameRows right := by
  rw [same]
  exact ⟨rfl, rfl, rfl⟩

/-- Whether a change, once it has been made, can be made again and then leaves
the same rows. -/
def Settles {β : Type} (tables : Tables)
    (change : Tables → Answer (β × Tables)) : Prop :=
  ∀ value after, change tables = .ok (value, after) →
    ∃ again last, change after = .ok (again, last) ∧ after.SameRows last

theorem settles_of_sameRows {β : Type} {value : Tables → β}
    {change : Tables → Tables}
    (sameRows : (change tables).SameRows (change (change tables))) :
    tables.Settles fun tables => .ok (value tables, change tables) := by
  intro _ _ changed
  cases changed
  exact ⟨_, _, rfl, sameRows⟩

theorem sameRows_upsertEntity (distinct : tables.places.Nodup)
    (row : EntityRow) :
    (tables.upsertEntity row).SameRows
      ((tables.upsertEntity row).upsertEntity row) where
  records := by
    refine (records_upsertEntity_of_mem
      (nodup_places_upsertEntity distinct row) ?_).symm
    exact mem_records_upsertEntity.mpr (Or.inl rfl)
  edges := (edges_upsertEntity _ row).symm
  marks := (marks_upsertEntity _ row).symm

theorem settles_upsertEntity (distinct : tables.places.Nodup)
    (row : EntityRow) :
    tables.Settles fun tables => .ok (PUnit.unit, tables.upsertEntity row) :=
  settles_of_sameRows (sameRows_upsertEntity distinct row)

theorem sameRows_writing {records : List Record}
    (distinct : tables.places.Nodup)
    (apart : (records.map fun record => record.row.place).Nodup) :
    (tables.writing records).SameRows
      ((tables.writing records).writing records) where
  records := (records_writing_writing distinct apart).symm
  edges := (edges_writing _ records).symm
  marks := (marks_writing _ records).symm

theorem upsertEdge_of_mem {edge : EdgeRow} (there : edge ∈ tables.edges) :
    tables.upsertEdge edge = tables := by
  rw [upsertEdge, if_pos (List.contains_iff_mem.mpr there)]

theorem settles_connectStored (edge : Membership)
    (groupKey memberKey : String) :
    tables.Settles (connectStored edge groupKey memberKey) := by
  intro _ after connected
  obtain ⟨group, member, rfl⟩ := connectStored_eq_ok_iff.mp connected
  let added : EdgeRow := .ofKeys groupKey edge.memberKind memberKey
  have there : added ∈ (tables.upsertEdge added).edges :=
    mem_edges_upsertEdge.mpr (Or.inr rfl)
  have kept :
      ∀ {kind : EntityKind} {key : String}, tables.holds kind key = true →
        (tables.upsertEdge added).holds kind key = true := by
    intro kind key stored
    rw [holds_iff, places_upsertEdge]
    exact holds_iff.mp stored
  exact ⟨⟨⟩, _, connectStored_eq_ok_iff.mpr ⟨kept group, kept member, rfl⟩,
    .of_eq (upsertEdge_of_mem there).symm⟩

theorem edges_copyEdges_of_subset {kind source target : SqlValue}
    (there :
      ∀ edge ∈ tables.copiedEdges kind source target, edge ∈ tables.edges) :
    (tables.copyEdges kind source target).edges = tables.edges := by
  obtain ⟨fresh, edges, member⟩ :=
    exists_foldl_upsertEdge (tables.copiedEdges kind source target) tables
  have nothing : fresh = [] := by
    apply List.eq_nil_iff_forall_not_mem.mpr
    intro edge listed
    obtain ⟨copied, absent⟩ := (member edge).mp listed
    exact absent (there edge copied)
  rw [copyEdges, edges, nothing, List.append_nil]

/-- A member that has received the groups of another one has all of them, also
if it was that other one itself that received its groups. -/
theorem copiedEdges_copyEdges_subset {kind source : String}
    {target : SqlValue} :
    ∀ edge ∈ (tables.copyEdges (.text kind) (.text source) target).copiedEdges
      (.text kind)
      (.text source) target,
        edge ∈ (tables.copyEdges (.text kind) (.text source) target).edges := by
  intro edge copied
  obtain ⟨isKind, isTarget, group⟩ := mem_copiedEdges_iff.mp copied
  obtain ⟨given, stored, isSource, same⟩ := mem_directGroups_iff.mp group
  refine mem_edges_copyEdges.mpr (Or.inr ⟨isKind, isTarget, ?_⟩)
  rw [← same]
  rcases mem_edges_copyEdges.mp stored with earlier | ⟨_, _, received⟩
  · exact mem_directGroups_iff.mpr ⟨given, earlier, isSource, rfl⟩
  · exact received

theorem copiedEdges_congr (same : left.edges = right.edges)
    (kind source target : SqlValue) :
    left.copiedEdges kind source target =
        right.copiedEdges kind source target := by
  rw [copiedEdges, same, copiedEdges]

theorem settles_upsertCopying (distinct : tables.places.Nodup) (row : EntityRow)
    (source : String) : tables.Settles (upsertCopying row source) := by
  intro _ _ copied
  obtain ⟨stored, rfl⟩ := upsertCopying_eq_ok_iff.mp copied
  let written := tables.upsertEntity row
  let after :=
    written.copyEdges (.text MemberKind.user.name) (.text (fold source)) row.key
  have places : after.places = written.places := written.places_copyEdges _ _ _
  have edges : (after.upsertEntity row).edges = after.edges :=
    after.edges_upsertEntity row
  have stillStored : after.holds .user (fold source) = true := by
    rw [holds_iff, places]
    exact mem_places_upsertEntity.mpr (Or.inl (holds_iff.mp stored))
  refine ⟨⟨⟩, _, upsertCopying_eq_ok_iff.mpr ⟨stillStored, rfl⟩, ?_, ?_, ?_⟩
  · refine (((after.upsertEntity row).records_copyEdges _ _ _).trans ?_).symm
    have there : row.unversioned ∈ after.records := by
      rw [written.records_copyEdges]
      exact mem_records_upsertEntity.mpr (Or.inl rfl)
    apply records_upsertEntity_of_mem _ there
    rw [places]
    exact nodup_places_upsertEntity distinct row
  · refine edges.symm.trans (edges_copyEdges_of_subset ?_).symm
    rw [copiedEdges_congr edges, edges]
    exact copiedEdges_copyEdges_subset
  · exact ((marks_copyEdges _ _ _ _).trans (after.marks_upsertEntity row)).symm

theorem value_of_mem_putMark {name value : SqlValue} {mark : MarkRow}
    (member : mark ∈ (tables.putMark name value).marks)
    (named : (mark.name.equals name).isYes = true) : mark.value = value := by
  unfold putMark at member
  split at member
  · obtain ⟨earlier, _, rfl⟩ := List.mem_map.mp member
    by_cases earlierNamed : (earlier.name.equals name).isYes = true
    · rw [if_pos earlierNamed]
    · rw [if_neg earlierNamed] at named
      exact absurd named earlierNamed
  · rename_i absent
    rcases List.mem_append.mp member with earlier | added
    · exact absurd (List.any_eq_true.mpr ⟨mark, earlier, named⟩) absent
    · rw [List.mem_singleton.mp added]

theorem any_named_putMark (tables : Tables) (name : String) (value : SqlValue) :
    ((tables.putMark (.text name) value).marks.any fun mark =>
      (mark.name.equals (.text name)).isYes) = true := by
  unfold putMark
  split
  · rename_i there
    obtain ⟨mark, member, named⟩ := List.any_eq_true.mp there
    exact List.any_eq_true.mpr
      ⟨_, List.mem_map_of_mem member, by rw [if_pos named]; exact named⟩
  · simp

theorem putMark_putMark (tables : Tables) (name : String) (value : SqlValue) :
    (tables.putMark (.text name) value).putMark (.text name) value =
      tables.putMark (.text name) value := by
  let put := tables.putMark (.text name) value
  have kept : (put.marks.map fun mark =>
      if (mark.name.equals (.text name)).isYes then { mark with value := value }
        else mark) =
        put.marks := by
    refine (List.map_congr_left fun mark member => ?_).trans (List.map_id _)
    split
    · rename_i named
      rw [← value_of_mem_putMark member named]
      rfl
    · rfl
  show put.putMark (.text name) value = put
  rw [putMark, if_pos (tables.any_named_putMark name value), kept]

theorem setState_setState (tables : Tables) (state : String) :
    (tables.setState state).setState state = tables.setState state :=
  tables.putMark_putMark resetMark (.text state)

theorem deleteEntities_of_empty (entities : tables.entities = [])
    (edges : tables.edges = []) :
    tables.deleteEdges.deleteEntities = tables := by
  rcases tables with ⟨_, _, _⟩
  cases entities
  cases edges
  rfl

theorem emptied_emptied (tables : Tables) :
    tables.emptied.emptied = tables.emptied := by
  have empty : tables.emptied.deleteEdges.deleteEntities = tables.emptied :=
    deleteEntities_of_empty (entities_setState _ _) (edges_setState _ _)
  rw [emptied, empty]
  exact setState_setState _ resetState

theorem without_without (tables : Tables) (removal : Removal) :
    (tables.without removal).without removal = tables.without removal := by
  simp [without, List.filter_filter]

end Tables

/-! ## Calls that are made twice -/

namespace SyncCall

/-- Whether a call that is made twice comes to the same as if it is made once:
the second time it succeeds if the first did, and else fails with the same
error, and the store holds the same rows. It is not skipped: it makes as many
changes as the first time. -/
structure Repeats {α : Type} [Authority α] (call : SyncCall)
    (session : Session α) : Prop where
  answered : ∃ outcome, (call.run session).1.map Answer.outcome = some outcome ∧
    (call.run (call.run session).2).1.map Answer.outcome = some outcome
  sameRows : (call.run session).2.replica.tables.SameRows
    (call.run (call.run session).2).2.replica.tables
  counted : ∃ changes,
    (call.run session).2.replica.generation =
      session.replica.generation + changes ∧
      (call.run (call.run session).2).2.replica.generation =
        (call.run session).2.replica.generation + changes
  authority : (call.run session).2.authority = session.authority

section

variable {α β : Type} [Authority α] {call : SyncCall} {session : Session α}
  {replica : Replica}

/-- A call that leaves everything as it is is made under the same conditions
again. -/
theorem repeats_of_unchanged {answer : Answer SyncReply}
    (ran : call.run session = (some answer, session)) :
    call.Repeats session := by
  constructor
  · rw [ran, ran]
    exact ⟨answer.outcome, rfl, rfl⟩
  · rw [ran, ran]
    exact .of_eq rfl
  · rw [ran, ran]
    exact ⟨0, rfl, rfl⟩
  · rw [ran]

theorem repeats_of_runs {authority : α} {between last : Replica}
    {answer again : Answer SyncReply}
    (first :
      call.run ⟨replica, authority⟩ = (some answer, ⟨between, authority⟩))
    (second : call.run ⟨between, authority⟩ = (some again, ⟨last, authority⟩))
    (same : answer.outcome = again.outcome)
    (sameRows : between.tables.SameRows last.tables) {changes : Nat}
    (counted : between.generation = replica.generation + changes)
    (countedAgain : last.generation = between.generation + changes) :
    call.Repeats ⟨replica, authority⟩ := by
  constructor
  · rw [first, second]
    exact ⟨answer.outcome, rfl, congrArg some same.symm⟩
  · rw [first, second]
    exact sameRows
  · rw [first, second]
    exact ⟨changes, counted, countedAgain⟩
  · rw [first]

/-- A call that is a single change repeats if the change does. -/
theorem repeats_write {authority : α} {reply : β → SyncReply}
    {change : Tables → Answer (β × Tables)}
    (runs :
      ∀ replica,
        call.run ⟨replica, authority⟩ =
          withReplica reply (Replica.write change) ⟨replica, authority⟩)
    (settles : replica.tables.Settles change) :
    call.Repeats ⟨replica, authority⟩ := by
  rcases Replica.run_write_cases change replica with
    ⟨error, ran⟩ | ⟨value, tables, opened, changed, ran⟩
  · apply repeats_of_unchanged
    rw [runs, withReplica, once, Session.run_onReplica ran]
  · obtain ⟨again, last, changedAgain, sameRows⟩ := settles value tables changed
    let after : Replica :=
      { replica with tables := tables, generation := replica.generation + 1 }
    have stillOpen : after.isOpen = true := opened
    have ranAgain :=
      Replica.run_write_eq_ok_iff.mpr ⟨stillOpen, last, changedAgain, rfl⟩
    have first := runs replica
    have second := runs after
    rw [withReplica, once, Session.run_onReplica ran] at first
    rw [withReplica, once, Session.run_onReplica ranAgain] at second
    exact repeats_of_runs first second rfl sameRows rfl rfl

end

variable {replica : Replica} {roster : Roster}

theorem repeats_setState {call : SyncCall} (state : String)
    (runs :
      ∀ replica,
        call.run ⟨replica, roster⟩ =
          withReplica (fun _ => .done)
            (Replica.update fun tables => tables.setState state)
            ⟨replica, roster⟩) :
    call.Repeats ⟨replica, roster⟩ :=
  repeats_write runs
    (Tables.settles_of_sameRows
    (.of_eq (Tables.setState_setState _ state).symm))

theorem repeats_reset : reset.Repeats ⟨replica, roster⟩ := by
  rcases Bool.eq_false_or_eq_true replica.isOpen with opened | closed
  · have emptied : ∀ replica : Replica, replica.isOpen = true →
        reset.run ⟨replica, roster⟩ =
            (some (.ok .done), ⟨replica.afterReset, roster⟩) := by
      intro replica opened
      rw [run, withReplica, once,
        Session.run_onReplica (Replica.run_reset_of_open opened)]
      rfl
    exact repeats_of_runs (emptied replica opened)
      (emptied replica.afterReset opened) rfl
      (.of_eq (Tables.emptied_emptied replica.tables).symm) rfl rfl
  · apply repeats_of_unchanged
    rw [run, withReplica, once,
      Session.run_onReplica (Replica.run_reset_of_closed closed)]

/-- The roster hands out the same row again, or refuses to with the same
error. -/
theorem repeats_fetched {call : SyncCall} {kind : MemberKind} {id : String}
    {change : EntityRow → Tables → Answer (PUnit × Tables)}
    (runs :
      ∀ replica,
        call.run ⟨replica, roster⟩ =
          once (fun _ => .done)
            (Action.ofAnswer (roster.rowFor? kind id) >>=
              fun row => Session.onReplica (Replica.write (change row)))
                ⟨replica, roster⟩)
    (settles : ∀ row, replica.tables.Settles (change row)) :
    call.Repeats ⟨replica, roster⟩ := by
  cases answered : roster.rowFor? kind id with
  | error error =>
      rw [answered] at runs
      exact repeats_of_unchanged (runs replica)
  | ok row =>
      rw [answered] at runs
      exact repeats_write runs (settles row)

/-- Records are written and the first one that is refused is refused again. -/
theorem repeats_writing {call : SyncCall} {answer : Answer SyncReply}
    {records : List Record} (distinct : replica.tables.places.Nodup)
    (apart : (records.map fun record => record.row.place).Nodup)
    (first :
      call.run ⟨replica, roster⟩ =
        (some answer, ⟨replica.writing records, roster⟩))
    (second :
      call.run ⟨replica.writing records, roster⟩ =
        (some answer, ⟨(replica.writing records).writing records, roster⟩)) :
    call.Repeats ⟨replica, roster⟩ :=
  repeats_of_runs first second rfl
    (Tables.sameRows_writing distinct apart) rfl rfl

theorem repeats_upsertPage (sound : replica.tables.Sound)
    (rosterSound : roster.Sound) (kind : MemberKind) (position length : Nat) :
    (upsertPage kind position length).Repeats ⟨replica, roster⟩ := by
  rcases Bool.eq_false_or_eq_true replica.isOpen with opened | closed
  · obtain ⟨answer, committed, ended, run⟩ :=
      exists_endsPage roster kind position length
    exact repeats_writing sound.nodup_places (ended.nodup_places rosterSound)
      (run replica opened)
      (run (replica.writing committed) opened)
  · rcases run_upsertPage_of_closed closed with ⟨_, ran⟩ | ⟨_, ran⟩ <;>
      exact repeats_of_unchanged ran

theorem repeats_upsertAll (sound : replica.tables.Sound)
    (paged : 0 < replica.pageSize) (rosterSound : roster.Sound)
    (kind : MemberKind) :
    (upsertAll kind).Repeats ⟨replica, roster⟩ := by
  by_cases denied : roster.isDenied = true
  · exact repeats_of_unchanged (run_upsertAll_of_denied paged denied)
  rcases Bool.eq_false_or_eq_true replica.isOpen with opened | closed
  · have granted := eq_false_of_ne_true denied
    let records := Record.accepted (roster.recordsOf kind)
    have apart : (records.map fun record => record.row.place).Nodup :=
      (rosterSound.nodup_places_recordsOf kind).sublist
        ((List.takeWhile_sublist _).map _)
    have stillOpen : (replica.writing records).isOpen = true := opened
    exact repeats_writing sound.nodup_places apart
      (run_upsertAll_of_open opened paged granted)
      (run_upsertAll_of_open stillOpen paged granted)
  · rcases run_upsertAll_of_closed paged closed with ⟨_, ran⟩ | ⟨_, ran⟩ <;>
      exact repeats_of_unchanged ran

theorem repeats_upsertMembership (edge : Membership) :
    (upsertMembership edge).Repeats ⟨replica, roster⟩ := by
  rcases group : storableKey .group edge.groupId with error | groupKey
  · apply repeats_of_unchanged
    rw [run, withReplica, once, Replica.upsertMembership, group]
    rfl
  rcases member : storableKey edge.memberKind.entityKind edge.memberId with
      error | memberKey
  · apply repeats_of_unchanged
    rw [run, withReplica, once, Replica.upsertMembership, group, member]
    rfl
  · have runs : ∀ replica, (upsertMembership edge).run ⟨replica, roster⟩ =
        withReplica (fun _ => .done)
          (Replica.write (Tables.connectStored edge groupKey memberKey))
              ⟨replica, roster⟩ := by
      intro replica
      rw [run, Replica.upsertMembership, group, member]
      rfl
    exact repeats_write runs
      (Tables.settles_connectStored edge groupKey memberKey)

theorem repeats_removal (removal : Removal) :
    removal.call.Repeats ⟨replica, roster⟩ := by
  rcases Bool.eq_false_or_eq_true replica.isOpen with opened | closed
  · let after : Replica := { replica with
      tables := replica.tables.without removal
      generation := replica.generation + 1 }
    have stillOpen : after.isOpen = true := opened
    have again : after.tables.without removal = after.tables :=
      replica.tables.without_without removal
    exact repeats_of_runs (removal.run_of_open opened roster)
      (removal.run_of_open stillOpen roster) rfl (.of_eq again.symm) rfl rfl
  · exact repeats_of_unchanged (removal.run_of_closed closed roster)

theorem repeats_run (sound : replica.tables.Sound)
    (paged : 0 < replica.pageSize) (rosterSound : roster.Sound)
    (call : SyncCall) : call.Repeats ⟨replica, roster⟩ := by
  cases call with
  | requireReset | memberships => exact repeats_of_unchanged rfl
  | markResetRequired => exact repeats_setState resetState fun _ => rfl
  | markSynchronized => exact repeats_setState populatedState fun _ => rfl
  | reset => exact repeats_reset
  | upsertGroup id =>
      exact repeats_fetched
        (fun replica => run_upsertGroup ⟨replica, roster⟩ id)
        (Tables.settles_upsertEntity sound.nodup_places)
  | upsertUser id =>
      exact repeats_fetched (fun replica => run_upsertUser ⟨replica, roster⟩ id)
        (Tables.settles_upsertEntity sound.nodup_places)
  | upsertUserCopyingGroups id source =>
      exact repeats_fetched
        (fun replica => run_upsertUserCopyingGroups ⟨replica, roster⟩ id source)
          fun row =>
          Tables.settles_upsertCopying sound.nodup_places row source
  | upsertGroupsPage position length =>
      exact repeats_upsertPage sound rosterSound .group position length
  | upsertUsersPage position length =>
      exact repeats_upsertPage sound rosterSound .user position length
  | upsertAllGroups => exact repeats_upsertAll sound paged rosterSound .group
  | upsertAllUsers => exact repeats_upsertAll sound paged rosterSound .user
  | upsertMembership edge => exact repeats_upsertMembership edge
  | dropGroup id => exact repeats_removal (.group id)
  | dropAllGroups => exact repeats_removal .allGroups
  | dropUser id => exact repeats_removal (.user id)
  | dropAllUsers => exact repeats_removal .allUsers
  | dropMembership edge => exact repeats_removal (.membership edge)

/-- A call that is made twice over an unchanged roster is answered both times,
either with a value or with the same error. What is stored after the second time
is what is stored after the first one, the rows and their order, the edges and
the marks, and with these whether a reset is pending. The call makes as many
changes again, but only how often rows were written is counted further. -/
theorem sync_calls_are_idempotent (reached : replica.Reached)
    (edits : List RosterEdit) (call : SyncCall) :
    let roster := RosterEdit.applyAll {} edits
    let once := call.run ⟨replica, roster⟩
    let twice := call.run once.2
    once.2.authority = roster ∧
      (∃ outcome, once.1.map Answer.outcome = some outcome ∧
        twice.1.map Answer.outcome = some outcome) ∧
      once.2.replica.tables.SameRows twice.2.replica.tables ∧
      once.2.replica.tables.resetPending = twice.2.replica.tables.resetPending ∧
      ∃ changes, once.2.replica.generation = replica.generation + changes ∧
        twice.2.replica.generation = once.2.replica.generation + changes ∧
        (call.changesOnce = true → ∀ reply,
            once.1 = some (.ok reply) → changes = 1) := by
  intro roster once twice
  have rosterSound : roster.Sound := Roster.sound_applyAll edits
  have repeated :=
    repeats_run reached.sound reached.hasRoom.paged rosterSound call
  obtain ⟨changes, counted, countedAgain⟩ := repeated.counted
  refine ⟨repeated.authority, repeated.answered, repeated.sameRows,
    Tables.resetPending_congr repeated.sameRows.marks, changes, counted,
      countedAgain, ?_⟩
  intro single reply succeeded
  have one := (changedOnce_run single ⟨replica, roster⟩).done reply succeeded
  exact Nat.add_left_cancel (counted.symm.trans one)

/-- A page with a record that is refused is copied twice, up to that record. -/
theorem sync_calls_are_idempotent_interrupted :
    let roster := RosterEdit.applyAll {} interrupted
    let once := (upsertGroupsPage 0 5).run ⟨Replica.filled, roster⟩
    let twice := (upsertGroupsPage 0 5).run once.2
    let refusal : DirectoryError :=
      .accessFailure "refusing to store GROUP with an empty id"
    once.1.map Answer.outcome = some (.error refusal) ∧
      twice.1.map Answer.outcome = some (.error refusal) ∧
      once.2.replica.tables.SameRows twice.2.replica.tables ∧
        once.2.replica.tables.entities.map EntityRow.version = [2, 1] ∧
          twice.2.replica.tables.entities.map EntityRow.version = [3, 1] := by
  obtain ⟨_, ⟨outcome, first, second⟩, sameRows, _⟩ :=
    sync_calls_are_idempotent Replica.reached_filled interrupted
      (upsertGroupsPage 0 5)
  have refused : ((upsertGroupsPage 0 5).run
      ⟨Replica.filled, RosterEdit.applyAll {} interrupted⟩).1.map
        Answer.outcome =
        some (.error (.accessFailure
            "refusing to store GROUP with an empty id")) := by
    decide +kernel
  refine ⟨refused, second.trans (first.symm.trans refused), sameRows, ?_, ?_⟩
  · decide +kernel
  · decide +kernel

end SyncCall

end CachedDirectory
