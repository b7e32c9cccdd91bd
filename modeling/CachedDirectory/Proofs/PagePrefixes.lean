import CachedDirectory.Proofs.PageRuns
import CachedDirectory.Proofs.RecordWrites

/-!
# Pages that are copied in part

A replica copies a page of records one by one, and each by itself. If one of
them is refused, those before it stay stored, and none that comes after it is.
-/

namespace CachedDirectory

open Text

namespace Roster

variable {roster : Roster}

/-- The records of a kind have different places. -/
theorem Sound.nodup_places_recordsOf (sound : roster.Sound)
    (kind : MemberKind) :
    ((roster.recordsOf kind).map fun record => record.row.place).Nodup := by
  have places := sound.nodup_places
  rw [entityRows, List.map_append, EntityRow.map_place_ofGroups,
    EntityRow.map_place_ofUsers]
    at places
  cases kind with
  | group =>
      rw [recordsOf, List.map_map]
      exact places.of_append_left
  | user =>
      rw [recordsOf, List.map_map]
      exact places.of_append_right

end Roster

namespace SyncCall

/-- How the copying of a page ends, and which records it has stored by then. -/
inductive EndsPage (roster : Roster) (kind : MemberKind)
    (position length : Nat) :
    Answer SyncReply → List Record → Prop
  | whole (allowed : length = 0 ∨ roster.isDenied = false)
      (named :
        ∀ record ∈ roster.window kind position length,
          isBlank record.id = false) :
      EndsPage roster kind position length
        (.ok (.count (roster.window kind position length).length))
        (roster.window kind position length)
  | refused (before : List Record) (record : Record) (rest : List Record)
      (granted : roster.isDenied = false)
      (split : roster.window kind position length = before ++ record :: rest)
      (named : ∀ earlier ∈ before, isBlank earlier.id = false)
      (blank : isBlank record.id = true) :
      EndsPage roster kind position length (.error record.refusal) before
  | denied (room : 0 < length) (denied : roster.isDenied = true) :
      EndsPage roster kind position length (.error Roster.denial) []

variable {replica : Replica} {roster : Roster} {kind : MemberKind}
  {position length : Nat}

theorem EndsPage.isPrefix {answer : Answer SyncReply} {committed : List Record}
    (ended : EndsPage roster kind position length answer committed) :
    committed <+: roster.window kind position length := by
  cases ended with
  | whole => exact List.prefix_refl _
  | refused _ record rest _ split =>
      rw [split]
      exact List.prefix_append committed (record :: rest)
  | denied => exact List.nil_prefix

/-- The records that a page stores have different places. -/
theorem EndsPage.nodup_places {answer : Answer SyncReply}
    {committed : List Record}
    (ended : EndsPage roster kind position length answer committed)
    (sound : roster.Sound) :
    (committed.map fun record => record.row.place).Nodup := by
  have listed : committed.Sublist (roster.recordsOf kind) :=
    ended.isPrefix.sublist.trans
      ((List.take_sublist _ _).trans (List.drop_sublist _ _))
  exact (sound.nodup_places_recordsOf kind).sublist (listed.map _)

/-- How the copying of a page ends does not depend on what is stored. -/
theorem exists_endsPage (roster : Roster) (kind : MemberKind)
    (position length : Nat) :
    ∃ answer committed, EndsPage roster kind position length answer committed ∧
      ∀ replica : Replica, replica.isOpen = true →
        (upsertPage kind position length).run ⟨replica, roster⟩ =
          (some answer, ⟨replica.writing committed, roster⟩) := by
  rcases Nat.eq_zero_or_pos length with rfl | positive
  · have nothing : roster.window kind position 0 = [] := List.take_zero
    have whole : EndsPage roster kind position 0 _ _ :=
      .whole (Or.inl rfl) (by simp [nothing])
    rw [nothing] at whole
    exact ⟨_, _, whole, fun _ _ => run_upsertPage_of_zero⟩
  by_cases denied : roster.isDenied = true
  · exact ⟨_, _, .denied positive denied,
      fun _ _ => run_upsertPage_of_denied denied positive⟩
  have granted := eq_false_of_ne_true denied
  rcases Record.named_or_refused (roster.window kind position length) with
    named | ⟨before, record, rest, split, named, blank⟩
  · refine ⟨_, _, .whole (Or.inr granted) named, fun replica opened => ?_⟩
    rw [run_upsertPage_of_open opened granted positive,
      Record.tally_of_named named, Record.accepted_of_named named]
    rfl
  · refine ⟨_, _, .refused before record rest granted split named blank,
      fun replica opened => ?_⟩
    rw [run_upsertPage_of_open opened granted positive, split,
      Record.tally_of_refused named blank,
      Record.accepted_of_refused named blank]
    rfl

/-- Copying a page stores its records from the first one on, all of them and
then it gives their number, or those before the first one with a blank id, or
none if the roster denies access. The generation rises by as many. The other
rows, the edges and the marks stay, and with them whether a reset is pending. A
page never has more records than there is room for. Over a closed store nothing
is stored, and the call fails if it has something to store. -/
theorem page_commits_prefix (reached : replica.Reached)
    (edits : List RosterEdit) (kind : MemberKind) (position length : Nat) :
    let roster := RosterEdit.applyAll {} edits
    let window := roster.window kind position length
    let call := upsertPage kind position length
    window.length ≤ length ∧
    (replica.isOpen = true → ∃ answer committed tables,
      EndsPage roster kind position length answer committed ∧
      call.run ⟨replica, roster⟩ =
          (some answer,
            ⟨{ replica with
                tables := tables
                generation := replica.generation + committed.length },
                  roster⟩) ∧
        replica.tables.GainsOnly committed tables ∧
          tables.resetPending = replica.tables.resetPending) ∧
    (replica.isOpen = false → ∃ answer,
      call.run ⟨replica, roster⟩ = (some answer, ⟨replica, roster⟩) ∧
        (window = [] ∧ answer = .ok (.count 0) ∨ ∃ error,
            answer = .error error)) := by
  intro roster window call
  refine ⟨List.length_take_le _ _, fun opened => ?_, fun closed => ?_⟩
  · obtain ⟨answer, committed, ended, run⟩ :=
      exists_endsPage roster kind position length
    have apart := ended.nodup_places (Roster.sound_applyAll edits)
    have gains := Tables.gainsOnly_writing reached.sound.nodup_places apart
    exact ⟨answer, committed, _, ended, run replica opened, gains,
      Tables.resetPending_congr gains.marks⟩
  · rcases run_upsertPage_of_closed closed with ⟨nothing, ran⟩ | ⟨error, ran⟩
    · exact ⟨_, ran, Or.inl ⟨nothing, rfl⟩⟩
    · exact ⟨_, ran, Or.inr ⟨error, rfl⟩⟩

/-- Groups of which the second one has an id of a single wide space. -/
def interrupted : List RosterEdit :=
  [.putGroup ⟨"職員", none, [], []⟩, .putGroup ⟨"\u3000", none, [], []⟩,
    .putGroup ⟨"STAFF", some "Those who stay", [], []⟩]

/-- The first group is written for a second time, and the third one is not
reached. -/
theorem page_commits_prefix_interrupted :
    ∃ committed tables,
      (upsertPage .group 0 5).run
        ⟨Replica.filled, RosterEdit.applyAll {} interrupted⟩ =
          (some (.error (.accessFailure
            "refusing to store GROUP with an empty id")),
            ⟨{ Replica.filled with
                tables := tables
                generation := Replica.filled.generation + committed.length },
              RosterEdit.applyAll {} interrupted⟩) ∧
        committed.length = 1 ∧
          Replica.filled.tables.GainsOnly committed tables ∧
          tables.entities.map
            (fun row => (row.id, row.description, row.version)) =
            [(.text "STAFF", .text "Those who stay", 2),
                (.text "Ada", .null, 1)] := by
  obtain ⟨_, ends, _⟩ :=
    page_commits_prefix Replica.reached_filled interrupted .group 0 5
  have opened : Replica.filled.isOpen = true := by decide +kernel
  obtain ⟨answer, committed, tables, _, ran, gains, _⟩ := ends opened
  have answered : ((upsertPage .group 0 5).run
      ⟨Replica.filled, RosterEdit.applyAll {} interrupted⟩).1 =
        some (.error (.accessFailure
            "refusing to store GROUP with an empty id")) := by
    decide +kernel
  have counted : ((upsertPage .group 0 5).run
      ⟨Replica.filled,
        RosterEdit.applyAll {} interrupted⟩).2.replica.generation =
        Replica.filled.generation + 1 := by
    decide +kernel
  have rows : ((upsertPage .group 0 5).run
      ⟨Replica.filled,
        RosterEdit.applyAll {} interrupted⟩).2.replica.tables.entities.map
        (fun row => (row.id, row.description, row.version)) =
          [(.text "STAFF", .text "Those who stay", 2),
              (.text "Ada", .null, 1)] := by
    decide +kernel
  rw [ran] at answered counted rows
  cases answered
  exact ⟨committed, tables, ran, Nat.add_left_cancel counted, gains, rows⟩

end SyncCall

end CachedDirectory
