import CachedDirectory.Proofs.GuardedResyncs
import CachedDirectory.Proofs.PageRuns
import CachedDirectory.Proofs.RecordHistories
import CachedDirectory.Proofs.StoredLookups

/-!
# The latest records

A replica follows a roster that changes in between by whatever calls, in
whatever order. Every call does deeds that are told by how the roster is at that
time and by whether the call succeeds. Their history says what a lookup gives
once the store is marked as complete: the record that was written last under
that kind and folded id, with nothing left of earlier ones, or nothing if it was
never written or was removed afterwards.
-/

namespace CachedDirectory

open Text

namespace SyncCall

/-- Whether a call succeeds. -/
def succeeds (session : Session Roster) (call : SyncCall) : Bool :=
  match (call.run session).1 with
  | some (.ok _) => true
  | _ => false

/-- Whether a call copies pages of records. What it has stored stays if it fails
later. -/
def isPaged : SyncCall → Bool
  | upsertGroupsPage _ _ | upsertAllGroups | upsertUsersPage _ _
      | upsertAllUsers =>
      true
  | _ => false

/-- The deeds of a call that is granted by the roster and does not fail; a call
that copies pages stops at a record with a blank id. -/
def aims (roster : Roster) : SyncCall → List Deed
  | requireReset | memberships => []
  | markResetRequired | markSynchronized | upsertMembership _
      | dropMembership _ =>
      [.elsewhere]
  | reset => [.emptied]
  | upsertGroup id =>
      ((roster.group? id).map fun group => .wrote (.group group)).toList
  | upsertUser id | upsertUserCopyingGroups id _ =>
      ((roster.user? id).map fun user => .wrote (.user user)).toList
  | upsertGroupsPage position length =>
      Deed.writes ((roster.groupPage position length).map .group)
  | upsertUsersPage position length =>
      Deed.writes ((roster.userPage position length).map .user)
  | upsertAllGroups => Deed.writes (roster.groups.map .group)
  | upsertAllUsers => Deed.writes (roster.users.map .user)
  | dropGroup id => [.dropped .group (fold id)]
  | dropAllGroups => [.cleared .group]
  | dropUser id => [.dropped .user (fold id)]
  | dropAllUsers => [.cleared .user]

/-- The deeds of a call. -/
def deeds (session : Session Roster) (call : SyncCall) : List Deed :=
  let done :=
    if call.isPaged then !session.authority.isDenied else call.succeeds session
  if done then call.aims session.authority else []

variable {session after : Session Roster} {history : List Deed}
  {call : SyncCall} {deed : Deed}

theorem deeds_of_paged (paged : call.isPaged = true) :
    call.deeds session =
      if session.authority.isDenied then [] else
          call.aims session.authority := by
  unfold deeds
  cases session.authority.isDenied <;> simp [paged]

theorem deeds_of_aimless (aimless : call.aims session.authority = []) :
    call.deeds session = [] := by
  rw [deeds, aimless, ite_self]

theorem recalls_of_idle (recalls : session.replica.Recalls history)
    (unchanged : (call.run session).2 = session)
    (idle : call.deeds session = []) :
    (call.run session).2.replica.Recalls (history ++ call.deeds session) := by
  rw [unchanged, idle, List.append_nil]
  exact recalls

/-! ## One change -/

theorem recalls_of_error {error : DirectoryError}
    (recalls : session.replica.Recalls history) (single : call.isPaged = false)
    (ran : call.run session = (some (.error error), session)) :
    (call.run session).2.replica.Recalls (history ++ call.deeds session) := by
  have failed : call.succeeds session = false := by rw [succeeds, ran]
  have nothing : call.deeds session = [] := by simp [deeds, single, failed]
  exact recalls_of_idle recalls (congrArg Prod.snd ran) nothing

theorem recalls_of_ok {reply : SyncReply}
    (recalls : session.replica.Recalls history) (single : call.isPaged = false)
    (aimed : call.aims session.authority = [deed])
    (ran : call.run session = (some (.ok reply), after))
    (does : deed.Does session.replica.tables after.replica.tables)
    (counted : after.replica.generation = session.replica.generation + 1) :
    (call.run session).2.replica.Recalls (history ++ call.deeds session) := by
  have succeeded : call.succeeds session = true := by rw [succeeds, ran]
  have one : call.deeds session = [deed] := by
    simp [deeds, single, succeeded, aimed]
  rw [one, ran]
  refine ⟨does.recalls recalls.records, ?_⟩
  rw [counted, recalls.counted, List.length_append, List.length_singleton]

/-- A call that is one action on the replica. -/
theorem recalls_withReplica {β : Type} {action : Action Replica β}
    {reply : β → SyncReply} (recalls : session.replica.Recalls history)
    (opened : session.replica.isOpen = true) (single : call.isPaged = false)
    (aimed : call.aims session.authority = [deed])
    (ran : call.run session = withReplica reply action session)
    (done : deed.IsDoneBy action) :
    (call.run session).2.replica.Recalls (history ++ call.deeds session) := by
  rw [withReplica, once] at ran
  rcases done session.replica opened with
      ⟨error, result⟩ | ⟨value, replica, result, does, counted⟩
  · rw [Session.run_onReplica result] at ran
    exact recalls_of_error recalls single ran
  · rw [Session.run_onReplica result] at ran
    exact recalls_of_ok recalls single aimed ran does counted

/-- A call that stores what the roster hands out by one action on the
replica. -/
theorem recalls_fetched {kind : MemberKind} {id : String}
    {store : EntityRow → Action Replica PUnit}
    (recalls : session.replica.Recalls history)
    (opened : session.replica.isOpen = true) (single : call.isPaged = false)
    (ran :
      call.run session =
        once (fun _ => .done)
          (Action.ofAnswer (session.authority.rowFor? kind id) >>=
            fun row => Session.onReplica (store row)) session)
    (aimed :
      call.aims session.authority =
        ((session.authority.record? kind id).map .wrote).toList)
    (done :
      ∀ record : Record, (Deed.wrote record).IsDoneBy (store record.row)) :
    (call.run session).2.replica.Recalls (history ++ call.deeds session) := by
  cases answered : session.authority.rowFor? kind id with
  | error error =>
      rw [answered] at ran
      exact recalls_of_error recalls single ran
  | ok row =>
      obtain ⟨_, record, found, _, rfl⟩ := Roster.rowFor?_eq_ok_iff.mp answered
      rw [answered] at ran
      rw [found] at aimed
      exact recalls_withReplica recalls opened single aimed ran (done record)

/-! ## Pages -/

theorem recalls_of_writing {answer : Option (Answer SyncReply)}
    {records : List Record} (recalls : session.replica.Recalls history)
    (ran :
      call.run session =
        (answer, ⟨session.replica.writing records, session.authority⟩))
    (done : call.deeds session = records.map .wrote) :
    (call.run session).2.replica.Recalls (history ++ call.deeds session) := by
  rw [ran, done]
  exact Replica.recalls_writing recalls records

variable {kind : MemberKind} {position length : Nat}

theorem deeds_upsertPage :
    (upsertPage kind position length).deeds session =
      if session.authority.isDenied then []
      else Deed.writes (session.authority.window kind position length) := by
  cases kind with
  | group =>
      rw [deeds_of_paged rfl, upsertPage, aims, Roster.groupPage_eq,
        List.map_take, List.map_drop]
      rfl
  | user =>
      rw [deeds_of_paged rfl, upsertPage, aims, Roster.userPage_eq,
        List.map_take, List.map_drop]
      rfl

theorem deeds_upsertAll :
    (upsertAll kind).deeds session =
      if session.authority.isDenied then []
      else Deed.writes (session.authority.recordsOf kind) := by
  cases kind <;> exact deeds_of_paged rfl

/-- A call that copies the records of a page. -/
theorem recalls_upsertPage (recalls : session.replica.Recalls history)
    (opened : session.replica.isOpen = true) (kind : MemberKind)
    (position length : Nat) :
    ((upsertPage kind position length).run session).2.replica.Recalls
      (history ++ (upsertPage kind position length).deeds session) := by
  rcases Nat.eq_zero_or_pos length with rfl | positive
  · apply recalls_of_idle recalls (congrArg Prod.snd run_upsertPage_of_zero)
    rw [deeds_upsertPage, Roster.window, List.take_zero]
    exact ite_self _
  by_cases denied : session.authority.isDenied = true
  · apply recalls_of_idle recalls
      (congrArg Prod.snd (run_upsertPage_of_denied denied positive))
    rw [deeds_upsertPage, if_pos denied]
  · have granted := eq_false_of_ne_true denied
    apply recalls_of_writing recalls
      (run_upsertPage_of_open opened granted positive)
    rw [deeds_upsertPage, if_neg denied]
    rfl

/-- A call that copies all records page by page. -/
theorem recalls_upsertAll (recalls : session.replica.Recalls history)
    (opened : session.replica.isOpen = true)
    (paged : 0 < session.replica.pageSize) (kind : MemberKind) :
    ((upsertAll kind).run session).2.replica.Recalls
      (history ++ (upsertAll kind).deeds session) := by
  by_cases denied : session.authority.isDenied = true
  · apply recalls_of_idle recalls
      (congrArg Prod.snd (run_upsertAll_of_denied paged denied))
    rw [deeds_upsertAll, if_pos denied]
  · have granted := eq_false_of_ne_true denied
    apply recalls_of_writing recalls
      (run_upsertAll_of_open opened paged granted)
    rw [deeds_upsertAll, if_neg denied]
    rfl

/-- Every call does its deeds and nothing else. -/
theorem recalls_run (recalls : session.replica.Recalls history)
    (opened : session.replica.isOpen = true)
    (positive : 0 < session.replica.pageSize) (call : SyncCall) :
    (call.run session).2.replica.Recalls (history ++ call.deeds session) := by
  cases call with
  | requireReset | memberships =>
      exact recalls_of_idle recalls rfl (deeds_of_aimless rfl)
  | markResetRequired | markSynchronized =>
      exact recalls_withReplica recalls opened rfl rfl rfl
        (Deed.isDoneBy_setState _)
  | reset =>
      exact recalls_withReplica recalls opened rfl rfl rfl Deed.isDoneBy_reset
  | upsertGroup id =>
      refine recalls_fetched recalls opened rfl (run_upsertGroup session id) ?_
        Deed.isDoneBy_storeRow
      simp [aims, Roster.record?, Function.comp_def]
  | upsertUser id =>
      refine recalls_fetched recalls opened rfl (run_upsertUser session id) ?_
        Deed.isDoneBy_storeRow
      simp [aims, Roster.record?, Function.comp_def]
  | upsertUserCopyingGroups id source =>
      refine recalls_fetched recalls opened rfl
        (run_upsertUserCopyingGroups session id source) ?_
        fun record => Deed.isDoneBy_upsertCopying record source
      simp [aims, Roster.record?, Function.comp_def]
  | upsertGroupsPage position length =>
      exact recalls_upsertPage recalls opened .group position length
  | upsertUsersPage position length =>
      exact recalls_upsertPage recalls opened .user position length
  | upsertAllGroups => exact recalls_upsertAll recalls opened positive .group
  | upsertAllUsers => exact recalls_upsertAll recalls opened positive .user
  | upsertMembership edge =>
      exact recalls_withReplica recalls opened rfl rfl rfl
        (Deed.isDoneBy_upsertMembership edge)
  | dropGroup id =>
      exact recalls_withReplica recalls opened rfl rfl rfl
        (Deed.isDoneBy_update fun _ =>
        Deed.does_dropped (Tables.entities_dropGroup _ _))
  | dropUser id =>
      exact recalls_withReplica recalls opened rfl rfl rfl
        (Deed.isDoneBy_update fun _ =>
        Deed.does_dropped (Tables.entities_dropUser _ _))
  | dropAllGroups =>
      exact recalls_withReplica recalls opened rfl rfl rfl
        (Deed.isDoneBy_dropCounted fun _ =>
        Deed.does_cleared (Tables.entities_dropGroups _))
  | dropAllUsers =>
      exact recalls_withReplica recalls opened rfl rfl rfl
        (Deed.isDoneBy_dropCounted fun _ =>
        Deed.does_cleared (Tables.entities_dropUsers _))
  | dropMembership edge =>
      exact recalls_withReplica recalls opened rfl rfl rfl
        (Deed.isDoneBy_update fun _ =>
        Deed.does_elsewhere rfl)

end SyncCall

/-! ## Lookups -/

namespace Operation

/-- Whether an operation is a call or a question, or the roster changes, or time
passes. -/
def isFollowed : Operation Roster → Bool
  | call _ | read _ | pass _ | change _ => true
  | resync _ | resyncStep _ | storeGroups _ | storeUsers _ | readBlock _ _
  | writeBlock _ _ | close => false

/-- The deeds of an operation, of which only calls have any. -/
def deeds (session : Session Roster) : Operation Roster → List Deed
  | call made => made.deeds session
  | _ => []

/-- The deeds of operations that are carried out one after the other. -/
def deedsAll : List (Operation Roster) → Session Roster → List Deed
  | [], _ => []
  | operation :: rest, session =>
      operation.deeds session ++ deedsAll rest (operation.run session)

end Operation

/-- Whether a session comes about from an empty store by calls, while questions
are asked, time passes and its roster becomes any other one in between, and a
history is that of what was done. -/
def Session.HasHistory (session : Session Roster) (history : List Deed) :
    Prop :=
  ∃ settings replica roster operations,
    Replica.connect settings .standard {} = .ok replica ∧
      (∀ operation ∈ operations, Operation.isFollowed operation = true) ∧
        Operation.runAll operations ⟨replica, roster⟩ = session ∧
          Operation.deedsAll operations ⟨replica, roster⟩ = history

/-- What is kept along the history of a replica. -/
structure Replica.Remembers (replica : Replica) (history : List Deed) :
    Prop where
  opened : replica.isOpen = true
  paged : 0 < replica.pageSize
  standard : replica.converter = .standard
  sound : replica.tables.Sound
  recalls : replica.Recalls history

namespace Replica

variable {replica : Replica} {history : List Deed}

theorem remembers_of_connect {settings : Settings}
    (connected : connect settings .standard {} = .ok replica) :
    replica.Remembers [] := by
  obtain ⟨dialect, _, equality⟩ := Answer.bind_eq_ok_iff.mp connected
  cases equality
  refine ⟨rfl, Nat.le_max_right _ 1, rfl, Tables.sound_empty, ?_, rfl⟩
  intro kind key row _
  simp [Tables.records, Deed.latest?]

end Replica

namespace Session

variable {session : Session Roster} {history : List Deed}

theorem remembers_run {operation : Operation Roster}
    (followed : operation.isFollowed = true)
    (remembers : session.replica.Remembers history) :
    (operation.run session).replica.Remembers
      (history ++ operation.deeds session) := by
  obtain ⟨opened, paged, standard, sound, recalls⟩ := remembers
  cases operation with
  | call made =>
      have steps := made.steps_run session
      exact
        { opened := (Replica.isOpen_of_steps steps).trans opened
          paged := paged.trans_eq (Replica.pageSize_of_steps steps).symm
          standard := (Replica.converter_of_steps steps).trans standard
          sound := Replica.sound_of_steps steps sound
          recalls := made.recalls_run recalls opened paged }
  | read reading =>
      obtain ⟨memo, same⟩ := reading.exists_memo session.replica
      dsimp only [Operation.run, Operation.deeds]
      rw [same, List.append_nil]
      exact ⟨opened, paged, standard, sound, recalls.1, recalls.2⟩
  | pass | change =>
      dsimp only [Operation.run, Operation.deeds]
      rw [List.append_nil]
      exact ⟨opened, paged, standard, sound, recalls.1, recalls.2⟩
  | _ => cases followed

theorem remembers_runAll {operations : List (Operation Roster)}
    (followed : ∀ operation ∈ operations, operation.isFollowed = true)
    (remembers : session.replica.Remembers history) :
    (Operation.runAll operations session).replica.Remembers
      (history ++ Operation.deedsAll operations session) := by
  induction operations generalizing session history with
  | nil =>
      rw [Operation.deedsAll, List.append_nil]
      exact remembers
  | cons operation rest inductionHypothesis =>
      have first :=
        remembers_run (followed operation List.mem_cons_self) remembers
      rw [Operation.deedsAll, ← List.append_assoc]
      exact inductionHypothesis
        (fun other member =>
          followed other (List.mem_cons_of_mem operation member))
        first

theorem HasHistory.remembers (came : session.HasHistory history) :
    session.replica.Remembers history := by
  obtain ⟨settings, replica, roster, operations, connected, followed,
      rfl, rfl⟩ :=
    came
  have first := Replica.remembers_of_connect connected
  exact @remembers_runAll ⟨replica, roster⟩ [] operations followed first

end Session

/-- A record as it is read, with the ids at the other ends of its edges. -/
def Record.linked (memberOf members : List String) : Record → Entity
  | .group record =>
      .group { record with memberOf := memberOf, members := members }
  | .user record => .user { record with memberOf := memberOf }

namespace Tables

variable {tables : Tables} {history : List Deed} {kind : EntityKind}
  {id : String}
  {record : Record}

theorem Recalls.storedEntity_of_none (recalls : tables.Recalls history)
    (latest : Deed.latest? kind (fold id) history = none)
    (converter : Converter) :
    Replica.storedEntity converter kind id tables =
        .error (.notFound kind id) := by
  apply storedEntity_of_absent
  rw [← map_place_records]
  intro taken
  obtain ⟨row, stored, placed⟩ := List.mem_map.mp taken
  have written := (recalls kind (fold id) row placed).mp stored
  rw [latest] at written
  cases written

theorem Recalls.storedEntity_of_some (recalls : tables.Recalls history)
    (sound : tables.Sound)
    (latest : Deed.latest? kind (fold id) history = some record) :
    ∃ memberOf members,
      Replica.storedEntity .standard kind id tables =
          .ok (record.linked memberOf members) := by
  obtain ⟨_, _, _, ⟨rfl, same⟩, _⟩ := Deed.latest?_eq_some_iff.mp latest
  have placed :
      record.row.place = (.text record.kind.name, .text (fold id)) := by
    rw [record.place_row, same]
  have listed : record.row ∈ tables.records := by
    rw [recalls record.kind (fold id) record.row placed, latest]
    rfl
  obtain ⟨row, stored, unversioned⟩ := List.mem_map.mp listed
  have versioned : { record.row with version := row.version } = row := by
    rw [← unversioned]
    rfl
  rw [← versioned] at stored
  cases record with
  | group group => exact ⟨_, _, sound.storedEntity_group stored same.symm⟩
  | user user => exact ⟨_, [], sound.storedEntity_user stored same.symm⟩

end Tables

namespace Session

variable {session : Session Roster} {history : List Deed}

/-- Once the store is marked as complete, which makes one more deed, a lookup
finds the record that was written last under that kind and folded id, with
nothing left of earlier ones; it finds nothing if and only if no record was
written there since the last deed by which it was removed. -/
theorem lookup_is_latest (came : session.HasHistory history) :
    ∃ replica,
      SyncCall.run session .markSynchronized =
          (some (.ok .done), ⟨replica, session.authority⟩) ∧
        replica.generation = history.length + 1 ∧
          ∀ (kind : EntityKind) (id : String), kind.isPersisted = true →
            (((Replica.lookup kind id).run replica).1 =
              .error (.notFound kind id) ↔
              Deed.latest? kind (fold id) history = none) ∧
            ∀ record, Deed.latest? kind (fold id) history = some record →
              ∃ memberOf members,
                ((Replica.lookup kind id).run replica).1 =
                  .ok (record.linked memberOf members) := by
  obtain ⟨opened, _, standard, sound, recalls, counted⟩ := came.remembers
  refine ⟨session.replica.synchronized, run_withReplica_update opened, ?_, ?_⟩
  · rw [← counted]
    rfl
  intro kind id persisted
  have readable := Replica.readTables_synchronized opened
  have marked :
      (session.replica.tables.setState populatedState).Recalls history := by
    intro kind key row placed
    rw [Tables.records, Tables.entities_setState]
    exact recalls kind key row placed
  have found := Replica.run_lookup readable persisted id
  rw [show session.replica.synchronized.converter = .standard
    from standard] at found
  rw [found]
  have present : ∀ record, Deed.latest? kind (fold id) history = some record →
      ∃ memberOf members,
        Replica.storedEntity .standard kind id
          (session.replica.tables.setState populatedState) =
          .ok (record.linked memberOf members) :=
    fun record latest =>
      marked.storedEntity_of_some (sound.setState populatedState) latest
  refine ⟨⟨fun absent =>
    ?_, fun latest => marked.storedEntity_of_none latest _⟩, present⟩
  rcases latest : Deed.latest? kind (fold id) history with _ | record
  · rfl
  · obtain ⟨memberOf, members, stored⟩ := present record latest
    rw [stored] at absent
    cases absent

/-- The sample of a roster is copied, its user is replaced, copied again under
another spelling of the id, and the group is dropped. -/
theorem lookup_is_latest_replaced :
    ∃ session history replica,
      session.HasHistory history ∧
        history =
            [.wrote (.group ⟨"Staff", some "All of us", [], ["ada"]⟩),
              .wrote (.user ⟨"Ada", some "Ada Lovelace", none, none, none, true,
                ["STAFF"]⟩),
              .wrote (.user ⟨"ADA", none, some "Augusta", none, none, false,
                ["STAFF"]⟩),
              .dropped .group "staff"] ∧
          SyncCall.run session .markSynchronized =
              (some (.ok .done), ⟨replica, session.authority⟩) ∧
            ((Replica.lookup .group "Staff").run replica).1 =
              .error (.notFound .group "Staff") ∧
              ∃ memberOf,
                ((Replica.lookup .user "aDa").run replica).1 =
                  .ok (.user ⟨"ADA", none, some "Augusta", none, none, false,
                      memberOf⟩) := by
  let edited := RosterEdit.applyAll {}
    (Roster.sample ++
      [.putUser ⟨"ADA", none, some "Augusta", none, none, false, []⟩])
  let operations : List (Operation Roster) :=
    [.call .upsertAllGroups, .call .upsertAllUsers, .change fun _ => edited,
      .call (.upsertUser "ada"), .call (.dropGroup "STAFF")]
  have came : (Operation.runAll operations
      ⟨Replica.unfilled, RosterEdit.applyAll {} Roster.sample⟩).HasHistory
        (Operation.deedsAll operations
          ⟨Replica.unfilled, RosterEdit.applyAll {} Roster.sample⟩) :=
    ⟨{}, Replica.unfilled, RosterEdit.applyAll {} Roster.sample, operations,
      Replica.connect_unfilled, by decide, rfl, rfl⟩
  obtain ⟨replica, marked, _, lookups⟩ := lookup_is_latest came
  obtain ⟨absent, _⟩ := lookups .group "Staff" rfl
  obtain ⟨_, present⟩ := lookups .user "aDa" rfl
  obtain ⟨memberOf, _, found⟩ := present
    (.user ⟨"ADA", none, some "Augusta", none, none, false, ["STAFF"]⟩)
      (by decide +kernel)
  exact ⟨_, _, replica, came, by decide +kernel, marked,
    absent.mpr (by decide +kernel),
    memberOf, found⟩

end Session

end CachedDirectory
