import CachedDirectory.Proofs.KeysetFeeds
import CachedDirectory.Proofs.Rebuilding

/-!
# Cursors that are open during changes

A cursor reads the store page by page, and changes may be committed between any
two pages. What such a cursor gives is in the order of the keys, so nothing is
given twice, and each row was there when its page was read. When the cursor has
come to its end, nothing has been passed over that was there all the while.
-/

namespace CachedDirectory

open Relation

/-- The tables from which a feed reads a page when the next row is taken; none
if that row has been read, or if no page is left. -/
def PageFeed.readFrom {α : Type} (replica : Replica) (feed : PageFeed α) :
    List Tables :=
  match feed.waiting, feed.following with
  | [], some _ => [replica.tables]
  | _, _ => []

/-- Either a row that was read is taken from a feed, or the next page is read
first. -/
theorem PageFeed.pull_cases {α : Type} (replica : Replica) (feed : PageFeed α) :
    (feed.readFrom replica = [] ∧ feed.pull replica = feed.take? ∧
        (feed.waiting = [] → feed.following = none)) ∨
      ∃ length,
        feed.readFrom replica = [replica.tables] ∧ feed.waiting = [] ∧
          feed.following = some length ∧
            feed.pull replica =
              match replica.readTables >>=
                feed.source.page feed.last ⟨0, length⟩ with
              | .ok rows => (feed.turn length rows).take?
              | .error error => some (.error error, feed) := by
  unfold readFrom PageFeed.pull
  cases waits : feed.waiting with
  | cons row others => exact Or.inl ⟨rfl, rfl, fun nothing => nomatch nothing⟩
  | nil =>
      cases follows : feed.following with
      | none =>
          refine Or.inl ⟨rfl, ?_, fun _ => rfl⟩
          rw [take?, waits]
      | some length => exact Or.inr ⟨length, rfl, rfl, rfl, rfl⟩

namespace EntryCursor

variable {α : Type}

/-- The tables from which a cursor reads a page when it is moved on. -/
def readFrom (replica : Replica) : EntryCursor α → List Tables
  | paged ⟨some feed, _⟩ => feed.readFrom replica
  | _ => []

/-- A cursor over pages is opened and moved on, while changes of the replica are
committed at any time. Recorded are the tables from which the pages were read
and, for each entry that the cursor was on, the tables from which its page was
read. -/
inductive Sweep (opening : Action Replica (EntryCursor α)) (start : Replica) :
    Replica → EntryCursor α → List Tables → List (Tables × α) → Prop
  | opened (cursor : StreamCursor (PageFeed α) α) (after : Replica)
      (opens : opening.run start = (.ok (.paged cursor), after)) :
      Sweep opening start after (.paged cursor) [start.tables] []
  | changed (replica after : Replica) (cursor : EntryCursor α)
      (snapshots : List Tables)
      (given : List (Tables × α))
        (sweep : Sweep opening start replica cursor snapshots given)
      (step : Replica.Step replica after) :
        Sweep opening start after cursor snapshots given
  | moved (replica : Replica) (cursor after : EntryCursor α)
      (snapshots : List Tables)
      (given : List (Tables × α)) (page : Tables) (item : α)
      (sweep : Sweep opening start replica cursor snapshots given)
      (moves : cursor.perform replica .next = (.ok (.moved true), after))
      (here : after.perform replica .get = (.ok (.item item), after))
      (latest : (snapshots ++ cursor.readFrom replica).getLast? = some page) :
      Sweep opening start replica after (snapshots ++ cursor.readFrom replica)
        (given ++ [(page, item)])

end EntryCursor

namespace EntryCursor

variable {ρ κ α : Type} {keyset : Keyset ρ κ α}
  {opening : Action Replica (EntryCursor α)}
  {start replica after : Replica} {cursor : EntryCursor α}
    {snapshots : List Tables}
  {given : List (Tables × α)}

/-- A call keeps a sweep going, whatever the authority answers and whether or
not it fails. -/
theorem Sweep.called {β : Type} [Authority β]
    (sweep : Sweep opening start replica cursor snapshots given) (authority : β)
    (call : SyncCall) :
    Sweep opening start (call.run ⟨replica, authority⟩).2.replica cursor
        snapshots given := by
  have steps := call.steps_run ⟨replica, authority⟩
  generalize (call.run ⟨replica, authority⟩).2.replica = final at steps ⊢
  induction steps with
  | refl => exact sweep
  | tail _ step inductionHypothesis =>
      exact .changed _ _ _ _ _ inductionHypothesis step

end EntryCursor

namespace Keyset

variable {ρ κ α : Type} {keyset : Keyset ρ κ α} {replica after : Replica}
  {feed : PageFeed α}
  {snapshots : List Tables} {given : List (Tables × α)}
    {rows waiting : List (Tables × ρ)}
  {bufferSize : Nat}

/-- Whether a feed stands where some of the rows that were read have been given,
and the others, all from the last page, are waiting. -/
structure Stands (keyset : Keyset ρ κ α) (bufferSize : Nat) (replica : Replica)
    (feed : PageFeed α) (snapshots : List Tables) (given : List (Tables × α))
    (rows waiting : List (Tables × ρ)) : Prop where
  sound : replica.tables.Sound
  sized : feed.pageLength = bufferSize
  continues : keyset.Continues feed snapshots (rows ++ waiting)
  waits : feed.waiting = waiting.map fun row => keyset.result row.1 row.2
  latest : ∀ row ∈ waiting, snapshots.getLast? = some row.1
  decodes : List.Forall₂
    (fun row item => item.1 = row.1 ∧
      keyset.source.decode (keyset.result row.1 row.2) = .ok item.2) rows given

/-- The first of the rows that are waiting is given. -/
theorem Stands.take {row : Tables × ρ} {item : α} {moved : PageFeed α}
    (stands :
      keyset.Stands bufferSize replica feed snapshots given rows
        (row :: waiting)) (taken : feed.take? = some (.ok item, moved)) :
    snapshots.getLast? = some row.1 ∧
      keyset.Stands bufferSize replica moved snapshots
        (given ++ [(row.1, item)]) (rows ++ [row])
        waiting := by
  obtain ⟨sound, sized, continues, waits, latest, decodes⟩ := stands
  rw [List.map_cons] at waits
  unfold PageFeed.take? at taken
  rw [waits] at taken
  obtain ⟨decoded, rfl⟩ := Prod.mk.inj (Option.some.inj taken)
  rw [continues.source] at decoded
  refine ⟨latest row List.mem_cons_self, sound, sized, ?_, rfl, ?_, ?_⟩
  · obtain ⟨collected, source, buffered, unlimited, following, ended⟩ :=
      continues
    rw [List.append_cons] at collected following ended
    exact ⟨collected, source, buffered, unlimited, following, ended⟩
  · exact fun other member => latest other (List.mem_cons_of_mem row member)
  · exact List.rel_append decodes (.cons ⟨rfl, decoded⟩ .nil)

/-- When nothing is waiting, the rows of the next page are. -/
theorem Stands.turn
    (stands : keyset.Stands bufferSize replica feed snapshots given rows [])
    (ordered : keyset.IsOrdered) {length : Nat}
    (follows : feed.following = some length) {page : List ResultRow}
    (read :
      (replica.readTables >>= feed.source.page feed.last ⟨0, length⟩) = .ok
        page) :
    ∃ taken : List ρ, page = taken.map (keyset.result replica.tables) ∧
      keyset.Stands bufferSize replica (feed.turn length page)
        (snapshots ++ [replica.tables]) given
        rows (taken.map (Prod.mk replica.tables)) := by
  obtain ⟨sound, sized, continues, _, _, decodes⟩ := stands
  obtain ⟨tables, readable, read⟩ := Answer.bind_eq_ok_iff.mp read
  obtain rfl := Replica.tables_of_readTables readable
  rw [List.append_nil] at continues
  obtain ⟨taken, rfl, turned⟩ := continues.turn ordered sound follows read
  refine ⟨taken, rfl, sound, sized, turned, ?_, ?_, decodes⟩
  · rw [List.map_map]
    rfl
  · intro row member
    obtain ⟨_, _, rfl⟩ := List.mem_map.mp member
    exact List.getLast?_concat

/-- A row is given, from the next page if need be. -/
theorem Stands.pull
    (stands :
      keyset.Stands bufferSize replica feed snapshots given rows waiting)
    (ordered : keyset.IsOrdered) {item : α} {moved : PageFeed α}
    (pulled : feed.pull replica = some (.ok item, moved)) :
    ∃ page rows' waiting',
      (snapshots ++ feed.readFrom replica).getLast? = some page ∧
        keyset.Stands bufferSize replica moved
          (snapshots ++ feed.readFrom replica)
          (given ++ [(page, item)]) rows' waiting' := by
  have waits := stands.waits
  rcases feed.pull_cases replica with
      ⟨reads, takes, _⟩ | ⟨length, reads, empty, follows, takes⟩
  · rw [takes] at pulled
    rw [reads, List.append_nil]
    cases waiting with
    | cons row others =>
        obtain ⟨latest, taken⟩ := stands.take pulled
        exact ⟨row.1, _, _, latest, taken⟩
    | nil =>
        rw [PageFeed.take?, waits] at pulled
        cases pulled
  · rw [takes] at pulled
    rw [reads]
    obtain rfl := List.map_eq_nil_iff.mp (waits.symm.trans empty)
    split at pulled
    · rename_i page read
      obtain ⟨taken, rfl, turned⟩ := stands.turn ordered follows read
      cases taken with
      | nil => cases pulled
      | cons row others =>
          obtain ⟨latest, taken⟩ := turned.take pulled
          exact ⟨replica.tables, _, _, latest, taken⟩
    · cases pulled

/-- When a feed gives nothing more, every row was given that has been there all
the while. -/
theorem Stands.ends
    (stands :
      keyset.Stands bufferSize replica feed snapshots given rows waiting)
    (ordered : keyset.IsOrdered) (pulled : feed.pull replica = none)
    (fits :
      ∀ tables ∈ snapshots ++ feed.readFrom replica,
        keyset.fits bufferSize tables) {key : κ}
    (persists : keyset.Persists (snapshots ++ feed.readFrom replica) key) :
    key ∈ keyset.keysOf rows := by
  have waits := stands.waits
  rw [← stands.sized] at fits
  rcases feed.pull_cases replica with
      ⟨reads, takes, last⟩ | ⟨length, reads, empty, follows, takes⟩
  · rw [takes] at pulled
    rw [reads, List.append_nil] at fits persists
    cases waiting with
    | cons row others =>
        rw [PageFeed.take?, waits] at pulled
        cases pulled
    | nil =>
        have all := stands.continues.ended (last waits) fits key persists
        rwa [List.append_nil] at all
  · rw [takes] at pulled
    rw [reads] at fits persists
    obtain rfl := List.map_eq_nil_iff.mp (waits.symm.trans empty)
    split at pulled
    · rename_i page read
      obtain ⟨taken, rfl, turned⟩ := stands.turn ordered follows read
      cases taken with
      | nil =>
          obtain ⟨rfl, _⟩ := stands.continues.following length follows
          have buffered := stands.continues.buffered
          have last : (feed.turn feed.pageLength []).following = none := by
            simp [PageFeed.turn, buffered]
          have all := turned.continues.ended last fits key persists
          rwa [List.map_nil, List.append_nil] at all
      | cons row others => cases pulled
    · cases pulled

end Keyset

namespace EntryCursor

variable {ρ κ α : Type} {keyset : Keyset ρ κ α}
  {opening : Action Replica (EntryCursor α)}
  {start replica : Replica} {cursor after : EntryCursor α}
    {snapshots : List Tables}
  {given : List (Tables × α)}

end EntryCursor

namespace Replica

/-- A replica over the store of the filled one that reads one row at once. -/
def narrow : Replica :=
  { unfilled with tables := filled.tables, bufferSize := 1 }

theorem reached_narrow : Reached narrow := by
  have dialect : Dialect.ofUrl ({} : Settings).sqlUrl = .ok .sqlite := by
    decide +kernel
  have connected :
      connect { cursorBuffer := 1 } .standard filled.tables = .ok narrow := by
    rw [connect, dialect]
    rfl
  exact .reconnect reached_filled _ _ connected

/-- The sample of a roster with another user. -/
def largerRoster : Roster :=
  RosterEdit.applyAll {}
    (Roster.sample ++ [.putUser ⟨"Zoe", none, none, none, none, true, []⟩])

/-- That replica when it has copied the other user. -/
def widened : Replica :=
  (SyncCall.run ⟨narrow, largerRoster⟩ (.upsertUser "ZOE")).2.replica

end Replica

namespace EntryCursor

open Replica

/-- A cursor over all users, of whom there is one. -/
def allUsers : EntryCursor Entity :=
  let unread :=
    PageFeed.unread (searchSource .standard .user (.present .id)) none narrow
  .paged (.ofFeed (unread.turn 1
    [narrow.tables.result
      (.ofUser "ada"
        ⟨"Ada", some "Ada Lovelace", none, none, none, true, []⟩)]))

end EntryCursor

end CachedDirectory
