import CachedDirectory.Proofs.PairedSteps

/-!
# Storing records

A replica stores the records that it is handed one by one, until one with a
blank id is refused. A record that is asked for by its id is stored in one
change.
-/

namespace CachedDirectory

open Text

/-- A record of a kind that is stored. -/
inductive Record where
  | group (group : Group)
  | user (user : User)
deriving DecidableEq, Repr

namespace Record

/-- The kind of a record. -/
def kind : Record → EntityKind
  | group _ => .group
  | user _ => .user

/-- The id of a record, in its own spelling. -/
def id : Record → String
  | group record => record.id
  | user record => record.id

/-- The row that a record is stored as. -/
def row : Record → EntityRow
  | group record => .ofGroup (fold record.id) record
  | user record => .ofUser (fold record.id) record

theorem place_row (record : Record) :
    record.row.place = (.text record.kind.name, .text (fold record.id)) := by
  cases record <;> rfl

theorem unversioned_row (record : Record) :
    record.row.unversioned = record.row := by
  cases record <;> rfl

variable {record : Record} {records : List Record}

/-- The error with which a record with a blank id is refused. -/
def refusal (record : Record) : DirectoryError :=
  .accessFailure
    ("refusing to store " ++ record.kind.name ++ " with an empty id")

/-- The row of a record, unless it is refused. -/
def row? (record : Record) : Answer EntityRow :=
  if isBlank record.id then .error record.refusal else .ok record.row

/-- The records before the first one that is refused. -/
def accepted (records : List Record) : List Record :=
  records.takeWhile fun record => !isBlank record.id

/-- What storing records one by one gives: their number, or why the first one is
refused that is. -/
def tally (records : List Record) : Answer Nat :=
  (records.find? fun record => isBlank record.id).elim (.ok records.length)
    fun record =>
    .error record.refusal

theorem ofGroup?_eq_row? (group : Group) :
    EntityRow.ofGroup? group = (Record.group group).row? := by
  unfold EntityRow.ofGroup? storableKey row? id
  by_cases blank : isBlank group.id = true
  · rw [if_pos blank, if_pos blank]
    rfl
  · rw [if_neg blank, if_neg blank]
    rfl

theorem ofUser?_eq_row? (user : User) :
    EntityRow.ofUser? user = (Record.user user).row? := by
  unfold EntityRow.ofUser? storableKey row? id
  by_cases blank : isBlank user.id = true
  · rw [if_pos blank, if_pos blank]
    rfl
  · rw [if_neg blank, if_neg blank]
    rfl

theorem accepted_cons (record : Record) (rest : List Record) :
    accepted (record :: rest) =
        if isBlank record.id then [] else record :: accepted rest := by
  by_cases blank : isBlank record.id = true
  · simp [accepted, blank]
  · simp [accepted, blank]

theorem tally_cons (record : Record) (rest : List Record) :
    tally (record :: rest) =
      if isBlank record.id then .error record.refusal else
          (tally rest).map (· + 1) := by
  by_cases blank : isBlank record.id = true
  · simp [tally, blank]
  · cases found : rest.find? fun record => isBlank record.id <;>
      simp [tally, found, blank, Except.map]

theorem named_or_refused (records : List Record) :
    (∀ record ∈ records, isBlank record.id = false) ∨
      ∃ before record rest, records = before ++ record :: rest ∧
        (∀ earlier ∈ before, isBlank earlier.id = false) ∧
            isBlank record.id = true := by
  rcases found : records.find? fun record => isBlank record.id with _ | record
  · left
    simpa using found
  · right
    obtain ⟨blank, before, rest, rfl, named⟩ :=
      List.find?_eq_some_iff_append.mp found
    exact ⟨before, record, rest, rfl, by simpa using named, blank⟩

theorem accepted_append_of_named
    (named : ∀ record ∈ records, isBlank record.id = false)
    (others : List Record) :
    accepted (records ++ others) = records ++ accepted others :=
  List.takeWhile_append_of_pos (by simpa using named)

theorem tally_append_of_named
    (named : ∀ record ∈ records, isBlank record.id = false)
    (others : List Record) :
    tally (records ++ others) = (tally others).map (records.length + ·) := by
  have none : (records.find? fun record => isBlank record.id) = none := by
    simpa using named
  cases found : others.find? fun record => isBlank record.id <;>
    simp [tally, none, found, Except.map]

theorem accepted_of_named
    (named : ∀ record ∈ records, isBlank record.id = false) :
    accepted records = records := by
  simpa [accepted] using accepted_append_of_named named []

theorem tally_of_named (named : ∀ record ∈ records, isBlank record.id = false) :
    tally records = .ok records.length := by
  simpa [tally, Except.map] using tally_append_of_named named []

theorem accepted_of_refused
    (named : ∀ earlier ∈ records, isBlank earlier.id = false)
    (blank : isBlank record.id = true) (others : List Record) :
    accepted (records ++ record :: others) = records := by
  rw [accepted_append_of_named named, accepted_cons, if_pos blank,
    List.append_nil]

theorem tally_of_refused
    (named : ∀ earlier ∈ records, isBlank earlier.id = false)
    (blank : isBlank record.id = true) (others : List Record) :
    tally (records ++ record :: others) = .error record.refusal := by
  rw [tally_append_of_named named, tally_cons, if_pos blank]
  rfl

end Record

/-! ## Storing records one by one -/

namespace Tables

/-- The tables with the rows of records written one after the other. -/
def writing (tables : Tables) (records : List Record) : Tables :=
  records.foldl (fun tables record => tables.upsertEntity record.row) tables

end Tables

namespace Replica

variable {replica : Replica}

/-- The replica with the rows of records written one after the other. -/
def writing (replica : Replica) (records : List Record) : Replica :=
  { replica with
    tables := replica.tables.writing records
    generation := replica.generation + records.length }

theorem writing_cons (replica : Replica) (record : Record)
    (rest : List Record) :
    replica.writing (record :: rest) =
        (replica.writing [record]).writing rest := by
  simp [writing, Tables.writing, Nat.add_comm, Nat.add_left_comm]

theorem writing_append (replica : Replica) (records others : List Record) :
    replica.writing (records ++ others) =
        (replica.writing records).writing others := by
  simp [writing, Tables.writing, Nat.add_assoc]

theorem run_storeRow (opened : replica.isOpen = true) (record : Record) :
    (storeRow record.row).run replica = (.ok ⟨⟩, replica.writing [record]) :=
  run_update_eq_ok_iff.mpr ⟨opened, rfl⟩

theorem storeAll_eq_map {α : Type} {rowOf : α → Answer EntityRow}
    {recordOf : α → Record} (rows : ∀ item, rowOf item = (recordOf item).row?)
    (items : List α) :
    storeAll rowOf items = storeAll Record.row? (items.map recordOf) := by
  induction items with
  | nil => rfl
  | cons item rest inductionHypothesis =>
      rw [storeAll, List.map_cons, storeAll, rows, inductionHypothesis]

/-- Records are stored one by one until one is refused. -/
theorem run_storeAll_of_open (opened : replica.isOpen = true)
    (records : List Record) :
    (storeAll Record.row? records).run replica =
      (Record.tally records, replica.writing (Record.accepted records)) := by
  induction records generalizing replica with
  | nil => rfl
  | cons record rest inductionHypothesis =>
      rw [storeAll, Record.tally_cons, Record.accepted_cons, Record.row?]
      by_cases blank : isBlank record.id = true
      · rw [if_pos blank, if_pos blank, if_pos blank]
        rfl
      · rw [if_neg blank, if_neg blank, if_neg blank, writing_cons]
        have stillOpen : (replica.writing [record]).isOpen = true := opened
        have later := inductionHypothesis stillOpen
        refine (Action.run_bind_ok (run_storeRow opened record)).trans ?_
        rcases counted : Record.tally rest with error | count
        · rw [counted] at later
          exact Action.run_bind_error later
        · rw [counted] at later
          exact Action.run_bind_ok later

/-- A closed store takes no record. -/
theorem run_storeAll_of_closed (closed : replica.isOpen = false)
    (records : List Record) :
    records = [] ∧
      (storeAll Record.row? records).run replica = (.ok 0, replica) ∨
      ∃ error,
          (storeAll Record.row? records).run replica =
              (.error error, replica) := by
  cases records with
  | nil => exact Or.inl ⟨rfl, rfl⟩
  | cons record rest =>
      right
      rw [storeAll, Record.row?]
      by_cases blank : isBlank record.id = true
      · rw [if_pos blank]
        exact ⟨record.refusal, rfl⟩
      · have refused :
            (storeRow record.row).run replica = (.error closedStore, replica) :=
          run_write_of_closed closed
        rw [if_neg blank]
        refine ⟨closedStore, Eq.trans (Action.run_bind_ok rfl) ?_⟩
        exact Action.run_bind_error refused

end Replica

/-! ## Storing what is asked for -/

namespace Roster

variable {roster : Roster} {kind : MemberKind} {id : String} {row : EntityRow}

/-- The record of a kind that a roster has under an id. -/
def record? (roster : Roster) : MemberKind → String → Option Record
  | .group, id => (roster.group? id).map .group
  | .user, id => (roster.user? id).map .user

/-- The row as which the record is stored that a roster hands out for an id. -/
def rowFor? (roster : Roster) (kind : MemberKind) (id : String) :
    Answer EntityRow :=
  if roster.isDenied then .error denial
  else
    (roster.record? kind id).elim (.error (.notFound kind.entityKind id))
      Record.row?

theorem rowFor?_eq_ok_iff :
    roster.rowFor? kind id = .ok row ↔
      roster.isDenied = false ∧
        ∃ record,
          roster.record? kind id = some record ∧ isBlank record.id = false ∧
          record.row = row := by
  rw [rowFor?]
  cases roster.isDenied with
  | true => simp
  | false =>
      cases found : roster.record? kind id with
      | none => simp
      | some record =>
          cases blank : isBlank record.id <;> simp [Record.row?, blank]

end Roster

namespace Session

theorem run_fetched {β : Type} {fetch : Action (Session Roster) β}
    {rowOf : β → Answer EntityRow} (find : Roster → Option β)
    (missing : DirectoryError)
    (fetches :
      fetch = ask (Roster.authorized find) >>=
        fun found => found.elim (Action.fail missing) pure)
    (store : EntityRow → Action (Session Roster) PUnit)
    (session : Session Roster) :
    (do
      let fetched ← fetch
      let row ← Action.ofAnswer (rowOf fetched)
      store row).run session =
        (Action.ofAnswer
          (if session.authority.isDenied then .error Roster.denial
            else (find session.authority).elim (.error missing) rowOf) >>=
                store).run session := by
  have asked := Roster.run_ask find session
  rw [fetches]
  cases denied : session.authority.isDenied with
  | true =>
      rw [denied] at asked
      exact Action.run_bind_error (Action.run_bind_error asked)
  | false =>
      rw [denied] at asked
      cases found : find session.authority with
      | none =>
          rw [found] at asked
          exact Action.run_bind_error (Action.run_bind_ok asked)
      | some fetched =>
          rw [found] at asked
          exact Action.run_bind_ok (Action.run_bind_ok asked)

theorem run_fetchedGroup (store : EntityRow → Action (Session Roster) PUnit)
    (session : Session Roster) (id : String) :
    (do
      let group ← fetchGroup id
      let row ← Action.ofAnswer (EntityRow.ofGroup? group)
      store row).run session =
        (Action.ofAnswer (session.authority.rowFor? .group id) >>= store).run
            session := by
  refine (run_fetched (fun roster => roster.group? id) (.notFound .group id) ?_
    store session).trans
    ?_
  · unfold fetchGroup
    congr 1
    funext found
    cases found <;> rfl
  · simp only [Roster.rowFor?, Roster.record?, funext Record.ofGroup?_eq_row?,
      Option.elim_map]
    rfl

theorem run_fetchedUser (store : EntityRow → Action (Session Roster) PUnit)
    (session : Session Roster) (id : String) :
    (do
      let user ← fetchUser id
      let row ← Action.ofAnswer (EntityRow.ofUser? user)
      store row).run session =
        (Action.ofAnswer (session.authority.rowFor? .user id) >>= store).run
            session := by
  refine (run_fetched (fun roster => roster.user? id) (.notFound .user id) ?_
    store session).trans
    ?_
  · unfold fetchUser
    congr 1
    funext found
    cases found <;> rfl
  · simp only [Roster.rowFor?, Roster.record?, funext Record.ofUser?_eq_row?,
      Option.elim_map]
    rfl

end Session

namespace SyncCall

theorem run_upsertGroup (session : Session Roster) (id : String) :
    run session (upsertGroup id) =
      once (fun _ => .done)
        (Action.ofAnswer (session.authority.rowFor? .group id) >>= fun row =>
          Session.onReplica (Replica.storeRow row)) session := by
  rw [run, once, Session.upsertGroup, Session.run_fetchedGroup]
  rfl

theorem run_upsertUser (session : Session Roster) (id : String) :
    run session (upsertUser id) =
      once (fun _ => .done)
        (Action.ofAnswer (session.authority.rowFor? .user id) >>= fun row =>
          Session.onReplica (Replica.storeRow row)) session := by
  rw [run, once, Session.upsertUser, Session.run_fetchedUser]
  rfl

theorem run_upsertUserCopyingGroups (session : Session Roster)
    (id source : String) :
    run session (upsertUserCopyingGroups id source) =
      once (fun _ => .done)
        (Action.ofAnswer (session.authority.rowFor? .user id) >>= fun row =>
          Session.onReplica (Replica.write (Tables.upsertCopying row source)))
              session := by
  rw [run, once, Session.upsertUserCopyingGroups, Session.run_fetchedUser]
  rfl

end SyncCall

end CachedDirectory
