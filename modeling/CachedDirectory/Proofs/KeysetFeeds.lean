import CachedDirectory.Proofs.KeysetPages
import CachedDirectory.Proofs.SyncSteps

/-!
# Feeds in the order of keys

Rows are collected page by page, and the tables may have changed from one page
to the next. What has been collected stays in the order of the keys, and no key
is passed over that has been there all the while: it is among what was
collected, or it comes after all of it.
-/

namespace CachedDirectory

namespace Keyset

variable {ρ κ α : Type} {keyset : Keyset ρ κ α} {snapshots : List Tables}
  {tables : Tables}
  {read : List (Tables × ρ)} {taken rest : List ρ} {length : Nat}
    {rows : List ResultRow}

/-- The keys of rows that were read, each from tables of its own. -/
def keysOf (keyset : Keyset ρ κ α) (read : List (Tables × ρ)) : List κ :=
  read.map fun row => keyset.keyOf row.2

/-- Whether a row with a key is found in all of some tables. -/
def Persists (keyset : Keyset ρ κ α) (snapshots : List Tables) (key : κ) :
    Prop :=
  ∀ tables ∈ snapshots, ∃ row ∈ keyset.found tables, keyset.keyOf row = key

/-- Whether rows were read from pages in the order of their keys, without
passing over a key that has been there all the while. -/
structure Collected (keyset : Keyset ρ κ α) (snapshots : List Tables)
    (read : List (Tables × ρ)) : Prop where
  sound : ∀ tables ∈ snapshots, tables.Sound
  increasing : (keyset.keysOf read).Pairwise keyset.before
  existed : ∀ row ∈ read, row.1 ∈ snapshots ∧ row.2 ∈ keyset.found row.1
  reaches : ∀ key, keyset.Persists snapshots key →
    key ∈ keyset.keysOf read ∨ ∀ earlier ∈ keyset.keysOf read,
      keyset.before earlier key

theorem keysOf_append (read others : List (Tables × ρ)) :
    keyset.keysOf (read ++ others) =
        keyset.keysOf read ++ keyset.keysOf others :=
  List.map_append

theorem keysOf_map_mk (tables : Tables) (taken : List ρ) :
    keyset.keysOf (taken.map (Prod.mk tables)) = taken.map keyset.keyOf := by
  rw [keysOf, List.map_map]
  rfl

theorem Persists.left {others : List Tables} {key : κ}
    (persists : keyset.Persists (snapshots ++ others) key) :
    keyset.Persists snapshots key :=
  fun tables member => persists tables (List.mem_append_left others member)

/-- A key after the last one of increasing keys comes after all of them. -/
theorem before_of_last (ordered : keyset.IsOrdered) {keys : List κ} {key : κ}
    (increasing : keys.Pairwise keyset.before)
    (last : ∀ other ∈ keys.getLast?, keyset.before other key) :
    ∀ other ∈ keys, keyset.before other key := by
  intro other member
  rcases List.eq_nil_or_concat keys with rfl | ⟨earlier, final, rfl⟩
  · cases member
  · rw [List.concat_eq_append] at *
    have finalBefore := last final (by simp)
    rcases List.mem_append.mp member with before | final
    · have between :=
        (List.pairwise_append.mp increasing).2.2 other before _
          List.mem_cons_self
      exact ordered.trans between finalBefore
    · cases List.mem_singleton.mp final
      exact finalBefore

/-- A key that has been there all the while was read before, or it is on the
page or after it. -/
theorem Collected.mem_or_mem (collected : keyset.Collected snapshots read)
    (cuts : keyset.Cuts tables (keyset.keysOf read).getLast? length taken rest)
    {key : κ} (persists : keyset.Persists (snapshots ++ [tables]) key) :
    key ∈ keyset.keysOf read ∨
      (∀ earlier ∈ keyset.keysOf read, keyset.before earlier key) ∧
        ∃ row ∈ taken ++ rest, keyset.keyOf row = key := by
  obtain ⟨row, found, rfl⟩ := persists tables (by simp)
  refine (collected.reaches _ persists.left).imp_right fun later =>
    ⟨later, row, ?_, rfl⟩
  refine (cuts.mem_iff row).mpr ⟨found, ?_⟩
  intro last member
  exact later last (List.mem_of_mem_getLast? member)

/-- A page goes on where the rows that were read end. -/
theorem Collected.page (collected : keyset.Collected snapshots read)
    (ordered : keyset.IsOrdered) (sound : tables.Sound)
    (cuts :
      keyset.Cuts tables (keyset.keysOf read).getLast? length taken rest) :
    keyset.Collected (snapshots ++ [tables])
      (read ++ taken.map (Prod.mk tables)) where
  sound := by
    intro other member
    rcases List.mem_append.mp member with earlier | latest
    · exact collected.sound other earlier
    · cases List.mem_singleton.mp latest
      exact sound
  increasing := by
    rw [keysOf_append, keysOf_map_mk]
    have increasing := cuts.increasing
    rw [List.map_append] at increasing
    refine List.pairwise_append.mpr
      ⟨collected.increasing, (List.pairwise_append.mp increasing).1, ?_⟩
    intro earlier member key listed
    obtain ⟨row, onPage, rfl⟩ := List.mem_map.mp listed
    have after := ((cuts.mem_iff row).mp (List.mem_append_left rest onPage)).2
    exact before_of_last ordered collected.increasing after earlier member
  existed := by
    intro row member
    rcases List.mem_append.mp member with earlier | onPage
    · obtain ⟨listed, found⟩ := collected.existed row earlier
      exact ⟨List.mem_append_left _ listed, found⟩
    · obtain ⟨row, listed, rfl⟩ := List.mem_map.mp onPage
      have found := ((cuts.mem_iff row).mp (List.mem_append_left rest listed)).1
      exact ⟨List.mem_append_right _ List.mem_cons_self, found⟩
  reaches := by
    intro key persists
    rw [keysOf_append, keysOf_map_mk, List.mem_append]
    rcases collected.mem_or_mem cuts persists with
        earlier | ⟨later, row, listed, rfl⟩
    · exact Or.inl (Or.inl earlier)
    · rcases List.mem_append.mp listed with onPage | behind
      · exact Or.inl (Or.inr (List.mem_map_of_mem onPage))
      · right
        intro earlier member
        rcases List.mem_append.mp member with before | onPage
        · exact later earlier before
        · have increasing := cuts.increasing
          rw [List.map_append] at increasing
          exact (List.pairwise_append.mp increasing).2.2 earlier onPage _
            (List.mem_map_of_mem behind)

/-- Whether a feed goes on where rows were read: after the last one, or not at
all if nothing is left that has been there all the while. -/
structure Continues (keyset : Keyset ρ κ α) (feed : PageFeed α)
    (snapshots : List Tables) (read : List (Tables × ρ)) : Prop where
  collected : keyset.Collected snapshots read
  source : feed.source = keyset.source
  buffered : 0 < feed.pageLength
  unlimited : feed.allowance = none
  following :
    ∀ length, feed.following = some length → length = feed.pageLength ∧
    ∃ earlier last,
      read = earlier ++ [last] ∧ feed.last = some (keyset.result last.1 last.2)
  ended :
    feed.following = none →
      (∀ tables ∈ snapshots, keyset.fits feed.pageLength tables) →
    ∀ key, keyset.Persists snapshots key → key ∈ keyset.keysOf read

variable {feed : PageFeed α}

theorem following_turn (unlimited : feed.allowance = none)
    (buffered : 0 < feed.pageLength) :
    (feed.turn length rows).following =
      if rows.length < length then none else some feed.pageLength := by
  simp [PageFeed.turn, unlimited, PageFeed.lengthWithin, Nat.ne_of_gt buffered]

/-- When a page has been read, the feed goes on after it. -/
theorem Collected.turn (collected : keyset.Collected snapshots read)
    (ordered : keyset.IsOrdered) (sound : tables.Sound)
    (source : feed.source = keyset.source) (buffered : 0 < feed.pageLength)
    (unlimited : feed.allowance = none)
    (reads :
      keyset.Reads tables (keyset.keysOf read).getLast? feed.pageLength rows) :
    ∃ taken : List ρ, rows = taken.map (keyset.result tables) ∧
      keyset.Continues (feed.turn feed.pageLength rows) (snapshots ++ [tables])
        (read ++ taken.map (Prod.mk tables)) := by
  obtain ⟨taken, rest, rfl, cuts⟩ := reads
  have page := collected.page ordered sound cuts
  refine ⟨taken, rfl, page, source, buffered, ?_, ?_, ?_⟩
  · simp [PageFeed.turn, unlimited]
  · intro asked continues
    rw [following_turn unlimited buffered, List.length_map] at continues
    split at continues
    · cases continues
    · rename_i full
      cases continues
      refine ⟨rfl, ?_⟩
      rcases List.eq_nil_or_concat taken with rfl | ⟨before, last, rfl⟩
      · exact absurd buffered full
      · refine ⟨read ++ before.map (Prod.mk tables), (tables, last), ?_, ?_⟩
        · simp
        · simp [PageFeed.turn]
  · intro stops fits key persists
    rw [following_turn unlimited buffered, List.length_map] at stops
    split at stops
    · rename_i short
      have nothing := cuts.full (fits tables (by simp)) short
      rw [keysOf_append, keysOf_map_mk, List.mem_append]
      rcases collected.mem_or_mem cuts persists with
          earlier | ⟨_, row, listed, rfl⟩
      · exact Or.inl earlier
      · rw [nothing, List.append_nil] at listed
        exact Or.inr (List.mem_map_of_mem listed)
    · cases stops

/-- The next page of a feed is read after the last row that was read. -/
theorem Continues.turn (continues : keyset.Continues feed snapshots read)
    (ordered : keyset.IsOrdered) (sound : tables.Sound)
    (follows : feed.following = some length)
    (page : feed.source.page feed.last ⟨0, length⟩ tables = .ok rows) :
    ∃ taken : List ρ, rows = taken.map (keyset.result tables) ∧
      keyset.Continues (feed.turn length rows) (snapshots ++ [tables])
        (read ++ taken.map (Prod.mk tables)) := by
  obtain ⟨rfl, earlier, last, rfl, known⟩ := continues.following length follows
  obtain ⟨listed, found⟩ := continues.collected.existed last (by simp)
  rw [continues.source, known] at page
  have reads :=
    ordered.next (continues.collected.sound _ listed) found sound page
  have latest :
      (keyset.keysOf (earlier ++ [last])).getLast? =
          some (keyset.keyOf last.2) := by
    simp [keysOf]
  rw [← latest] at reads
  exact continues.collected.turn ordered sound continues.source
    continues.buffered
    continues.unlimited reads

end Keyset

end CachedDirectory
