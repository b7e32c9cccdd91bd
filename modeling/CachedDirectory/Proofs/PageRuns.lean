import CachedDirectory.Proofs.RecordRuns

/-!
# Copying pages

A replica copies the records of a kind page by page: those of a page are stored
one by one until one is refused, and the loop goes on until a page is short or
fails. What it comes to does not depend on how long the pages are.
-/

namespace CachedDirectory

open Text

section

variable {σ : Type} {page : Nat → Action σ Nat} {state after : σ}
  {length rounds position : Nat}

/-- A loop over pages ends with a page that is short. -/
theorem pageThrough_of_short {taken : Nat}
    (first : (page position).run state = (.ok taken, after))
    (short : taken < length) :
    pageThrough page length (rounds + 1) position state =
      (some (.ok (position + taken)), after) := by
  unfold pageThrough
  rw [first]
  exact if_pos short

theorem pageThrough_of_full {taken : Nat}
    (first : (page position).run state = (.ok taken, after))
    (full : length ≤ taken) :
    pageThrough page length (rounds + 1) position state =
      pageThrough page length rounds (position + taken) after := by
  rw [pageThrough, first]
  exact if_neg (Nat.not_lt.mpr full)

/-- A loop over pages ends with a page that fails. -/
theorem pageThrough_of_error {error : DirectoryError}
    (failed : (page position).run state = (.error error, after)) :
    pageThrough page length (rounds + 1) position state =
        (some (.error error), after) := by
  unfold pageThrough
  rw [failed]

end

namespace Roster

/-- How pages of a list of records are stored, unless the roster refuses to hand
them out. -/
def StoresPages {α : Type} (roster : Roster)
    (page : Nat → Action (Session Roster) Nat) (rowOf : α → Answer EntityRow)
    (length : Nat) (records : List α) : Prop :=
  ∀ position replica,
    (page position).run ⟨replica, roster⟩ =
      if roster.isDenied then (.error Roster.denial, ⟨replica, roster⟩)
      else
        let stored :=
          (Replica.storeAll rowOf ((records.drop position).take length)).run
            replica
        (stored.1, ⟨stored.2, roster⟩)

theorem StoresPages.ofRows {α : Type} {roster : Roster}
    {part : Nat → Action (Session Roster) Nat} {rowOf : α → Answer EntityRow}
    {recordOf : α → Record} {length : Nat} {items : List α}
    (pages : roster.StoresPages part rowOf length items)
    (rows : ∀ item, rowOf item = (recordOf item).row?) :
    roster.StoresPages part Record.row? length (items.map recordOf) := by
  intro position replica
  rw [pages, Replica.storeAll_eq_map rows, List.map_take, List.map_drop]

/-- The records of a kind that a roster lists. -/
def recordsOf (roster : Roster) : MemberKind → List Record
  | .group => roster.groups.map .group
  | .user => roster.users.map .user

/-- The records of a kind from a position on, up to a number of them. -/
def window (roster : Roster) (kind : MemberKind) (position length : Nat) :
    List Record :=
  ((roster.recordsOf kind).drop position).take length

end Roster

namespace Replica

variable {roster : Roster} {replica : Replica} {records : List Record}
  {length : Nat}
  {part : Nat → Action (Session Roster) Nat}

/-- A loop over pages stores the records from its position on until one is
refused, if the pages of its rounds have more room than there are records. -/
theorem run_pageThrough (opened : replica.isOpen = true)
    (pages : roster.StoresPages part Record.row? length records)
    (granted : roster.isDenied = false) {rounds position : Nat}
    (enough : (records.drop position).length < rounds * length) :
    pageThrough part length rounds position ⟨replica, roster⟩ =
      (some ((Record.tally (records.drop position)).map (position + ·)),
        ⟨replica.writing (Record.accepted (records.drop position)),
            roster⟩) := by
  induction rounds generalizing position replica with
  | zero => omega
  | succ rounds inductionHypothesis =>
      obtain ⟨page, rest, isPage, isRest, whole⟩ : ∃ page rest,
          (records.drop position).take length = page ∧
            records.drop (position + length) = rest ∧
            records.drop position = page ++ rest := by
        refine ⟨_, _, rfl, rfl, ?_⟩
        rw [← List.drop_drop, List.take_append_drop]
      have first : (part position).run ⟨replica, roster⟩ =
          (Record.tally page,
              ⟨replica.writing (Record.accepted page), roster⟩) := by
        rw [pages, granted, isPage, run_storeAll_of_open opened]
        rfl
      rw [whole]
      rcases Record.named_or_refused page with
          named | ⟨before, record, others, rfl, named, blank⟩
      · rw [Record.tally_of_named named,
          Record.accepted_of_named named] at first
        rw [Record.tally_append_of_named named,
          Record.accepted_append_of_named named, writing_append]
        have size : page.length = min length (records.length - position) := by
          rw [← isPage, List.length_take, List.length_drop]
        by_cases short : page.length < length
        · have nothing : rest = [] := by
            rw [← isRest]
            apply List.drop_eq_nil_of_le
            omega
          rw [pageThrough_of_short first short, nothing]
          rfl
        · have full : page.length = length := by omega
          have stillOpen : (replica.writing page).isOpen = true := opened
          have stillEnough :
              (records.drop (position + length)).length < rounds * length := by
            rw [List.length_drop, Nat.succ_mul] at enough
            rw [List.length_drop]
            omega
          rw [pageThrough_of_full first (Nat.not_lt.mp short), full,
            inductionHypothesis stillOpen stillEnough, isRest]
          cases Record.tally rest with
          | error error => rfl
          | ok count => simp [Except.map, Nat.add_assoc]
      · rw [Record.tally_of_refused named blank,
          Record.accepted_of_refused named blank] at first
        rw [pageThrough_of_error first, List.append_assoc, List.cons_append,
          Record.tally_of_refused named blank,
          Record.accepted_of_refused named blank]
        rfl

end Replica

namespace Session

/-- Copies the records of a kind from a position on, up to a number of them, and
counts them. -/
def upsertPage {α : Type} [Authority α] :
    MemberKind → Nat → Nat → Action (Session α) Nat
  | .group => upsertGroupsPage
  | .user => upsertUsersPage

theorem storesPages (roster : Roster) (kind : MemberKind) {length : Nat}
    (positive : 0 < length) :
    roster.StoresPages (upsertPage kind length) Record.row? length
        (roster.recordsOf kind) := by
  cases kind with
  | group =>
      exact .ofRows (run_upsertGroupsPage positive) Record.ofGroup?_eq_row?
  | user => exact .ofRows (run_upsertUsersPage positive) Record.ofUser?_eq_row?

/-- A loop over the pages of a roster has more rounds than there are records of
a kind. -/
theorem length_recordsOf_lt_rounds (session : Session Roster)
    (kind : MemberKind) :
    (session.authority.recordsOf kind).length < session.rounds := by
  have bounded := session.authority.length_records_le kind.entityKind
  have same : (session.authority.recordsOf kind).length =
      (session.authority.records kind.entityKind).length := by
    cases kind <;> simp
      [Roster.recordsOf, Roster.records, MemberKind.entityKind]
  show (session.authority.recordsOf kind).length <
    2 * session.authority.size + 8
  omega

variable {replica : Replica} {roster : Roster} {kind : MemberKind}
  {position length : Nat}

theorem run_upsertPage_of_granted (granted : roster.isDenied = false)
    (positive : 0 < length) :
    (upsertPage kind length position).run ⟨replica, roster⟩ =
      let stored :=
        (Replica.storeAll Record.row? (roster.window kind position length)).run
          replica
      (stored.1, ⟨stored.2, roster⟩) := by
  rw [storesPages roster kind positive, granted]
  rfl

/-- The records of a page are stored one by one until one is refused. -/
theorem run_upsertPage_of_open (opened : replica.isOpen = true)
    (granted : roster.isDenied = false) (positive : 0 < length) :
    (upsertPage kind length position).run ⟨replica, roster⟩ =
      (Record.tally (roster.window kind position length),
        ⟨replica.writing (Record.accepted (roster.window kind position length)),
            roster⟩) := by
  rw [run_upsertPage_of_granted granted positive,
    Replica.run_storeAll_of_open opened]

theorem run_upsertPage_of_denied (denied : roster.isDenied = true)
    (positive : 0 < length) :
    (upsertPage kind length position).run ⟨replica, roster⟩ =
      (.error Roster.denial, ⟨replica, roster⟩) := by
  rw [storesPages roster kind positive, denied]
  rfl

/-- For a page without room nothing is asked. -/
theorem run_upsertPage_of_zero :
    (upsertPage kind 0 position).run ⟨replica, roster⟩ =
        (.ok 0, ⟨replica, roster⟩) := by
  cases kind <;> rfl

theorem run_upsertPage_of_closed (closed : replica.isOpen = false) :
    roster.window kind position length = [] ∧
        (upsertPage kind length position).run ⟨replica, roster⟩ =
          (.ok 0, ⟨replica, roster⟩) ∨
      ∃ error, (upsertPage kind length position).run ⟨replica, roster⟩ =
        (.error error, ⟨replica, roster⟩) := by
  rcases Nat.eq_zero_or_pos length with rfl | positive
  · exact Or.inl ⟨List.take_zero, run_upsertPage_of_zero⟩
  by_cases denied : roster.isDenied = true
  · exact Or.inr ⟨_, run_upsertPage_of_denied denied positive⟩
  · rw [run_upsertPage_of_granted (eq_false_of_ne_true denied) positive]
    rcases Replica.run_storeAll_of_closed closed
      (roster.window kind position length) with
      ⟨nothing, ran⟩ | ⟨error, ran⟩
    · rw [ran]
      exact Or.inl ⟨nothing, rfl⟩
    · rw [ran]
      exact Or.inr ⟨error, rfl⟩

end Session

namespace SyncCall

/-- The call that copies a page of records of a kind. -/
def upsertPage : MemberKind → Nat → Nat → SyncCall
  | .group => upsertGroupsPage
  | .user => upsertUsersPage

/-- The call that copies all records of a kind. -/
def upsertAll : MemberKind → SyncCall
  | .group => upsertAllGroups
  | .user => upsertAllUsers

theorem run_upsertPage {α : Type} [Authority α] (kind : MemberKind)
    (position length : Nat) (session : Session α) :
    (upsertPage kind position length).run session =
      once .count (Session.upsertPage kind length position) session := by
  cases kind <;> rfl

variable {replica : Replica} {roster : Roster} {kind : MemberKind}
  {position length : Nat}

theorem run_upsertPage_of_zero :
    (upsertPage kind position 0).run ⟨replica, roster⟩ =
      (some (.ok (.count 0)), ⟨replica, roster⟩) := by
  rw [run_upsertPage, once, Session.run_upsertPage_of_zero]
  rfl

theorem run_upsertPage_of_denied (denied : roster.isDenied = true)
    (positive : 0 < length) :
    (upsertPage kind position length).run ⟨replica, roster⟩ =
      (some (.error Roster.denial), ⟨replica, roster⟩) := by
  rw [run_upsertPage, once, Session.run_upsertPage_of_denied denied positive]
  rfl

theorem run_upsertPage_of_open (opened : replica.isOpen = true)
    (granted : roster.isDenied = false) (positive : 0 < length) :
    (upsertPage kind position length).run ⟨replica, roster⟩ =
      (some ((Record.tally (roster.window kind position length)).map .count),
        ⟨replica.writing (Record.accepted (roster.window kind position length)),
            roster⟩) := by
  rw [run_upsertPage, once,
    Session.run_upsertPage_of_open opened granted positive]

theorem run_upsertPage_of_closed (closed : replica.isOpen = false) :
    roster.window kind position length = [] ∧
        (upsertPage kind position length).run ⟨replica, roster⟩ =
          (some (.ok (.count 0)), ⟨replica, roster⟩) ∨
      ∃ error, (upsertPage kind position length).run ⟨replica, roster⟩ =
        (some (.error error), ⟨replica, roster⟩) := by
  rw [run_upsertPage, once]
  rcases Session.run_upsertPage_of_closed closed with
      ⟨nothing, page⟩ | ⟨error, page⟩
  · rw [page]
    exact Or.inl ⟨nothing, rfl⟩
  · rw [page]
    exact Or.inr ⟨error, rfl⟩

theorem run_upsertAll {α : Type} [Authority α] (kind : MemberKind)
    (session : Session α) :
    (upsertAll kind).run session =
      let copied :=
        pageThrough (Session.upsertPage kind session.replica.pageSize)
        session.replica.pageSize session.rounds 0 session
      (copied.1.map fun counted => counted.map .count, copied.2) := by
  cases kind <;> rfl

/-- All records are stored until one is refused, whatever the length of a page
is. -/
theorem run_upsertAll_of_open (opened : replica.isOpen = true)
    (paged : 0 < replica.pageSize) (granted : roster.isDenied = false) :
    (upsertAll kind).run ⟨replica, roster⟩ =
      (some ((Record.tally (roster.recordsOf kind)).map .count),
        ⟨replica.writing (Record.accepted (roster.recordsOf kind)),
            roster⟩) := by
  have enough : ((roster.recordsOf kind).drop 0).length <
      Session.rounds ⟨replica, roster⟩ * replica.pageSize :=
    Nat.lt_of_lt_of_le
      (Session.length_recordsOf_lt_rounds ⟨replica, roster⟩ kind)
      (Nat.le_mul_of_pos_right _ paged)
  have ran :=
    Replica.run_pageThrough opened (Session.storesPages roster kind paged)
      granted enough
  rw [run_upsertAll, ran, List.drop_zero]
  cases Record.tally (roster.recordsOf kind) with
  | error error => rfl
  | ok count => simp [Except.map]

theorem run_upsertAll_of_denied (paged : 0 < replica.pageSize)
    (denied : roster.isDenied = true) :
    (upsertAll kind).run ⟨replica, roster⟩ =
      (some (.error Roster.denial), ⟨replica, roster⟩) := by
  have ended :
      pageThrough (Session.upsertPage kind replica.pageSize) replica.pageSize
        (Session.rounds ⟨replica, roster⟩) 0 ⟨replica, roster⟩ =
          (some (.error Roster.denial), ⟨replica, roster⟩) :=
    pageThrough_of_error (Session.run_upsertPage_of_denied denied paged)
  rw [run_upsertAll, ended]
  rfl

/-- Over a closed store the first page is the last one. -/
theorem run_upsertAll_of_closed (paged : 0 < replica.pageSize)
    (closed : replica.isOpen = false) :
    roster.recordsOf kind = [] ∧
        (upsertAll kind).run ⟨replica, roster⟩ =
          (some (.ok (.count 0)), ⟨replica, roster⟩) ∨
      ∃ error, (upsertAll kind).run ⟨replica, roster⟩ =
        (some (.error error), ⟨replica, roster⟩) := by
  rw [run_upsertAll]
  rcases Session.run_upsertPage_of_closed closed with
      ⟨nothing, page⟩ | ⟨error, page⟩
  · have ended :
        pageThrough (Session.upsertPage kind replica.pageSize) replica.pageSize
          (Session.rounds ⟨replica, roster⟩) 0 ⟨replica, roster⟩ =
            (some (.ok (0 + 0)), ⟨replica, roster⟩) :=
      pageThrough_of_short page paged
    rw [ended]
    rw [Roster.window, List.drop_zero, List.take_eq_nil_iff] at nothing
    exact Or.inl ⟨nothing.resolve_left paged.ne', rfl⟩
  · have ended :
        pageThrough (Session.upsertPage kind replica.pageSize) replica.pageSize
          (Session.rounds ⟨replica, roster⟩) 0 ⟨replica, roster⟩ =
            (some (.error error), ⟨replica, roster⟩) :=
      pageThrough_of_error page
    rw [ended]
    exact Or.inr ⟨error, rfl⟩

end SyncCall

end CachedDirectory
