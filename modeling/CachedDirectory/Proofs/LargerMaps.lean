import CachedDirectory.Proofs.BoundedMaps

/-!
# Larger maps

Two bounded maps of different capacities are used alike. Hits reorder the larger
one in ways that the smaller one does not see, so its last entries need not be
those of the smaller one. Still the smaller one is always a part of it, in the
same order: the larger one is ahead by at most as many entries as its capacity
is larger, so it only drops an entry to make room if the smaller one does.
-/

namespace CachedDirectory

namespace BoundedMap

variable {κ ν : Type} {less more : Nat} {small large : List (BoundedEntry κ ν)}
  {key : κ} {entry : BoundedEntry κ ν}

/-- Whether the entries of a map are a part of those of another one, which is
ahead by at most as many entries as its capacity is larger. -/
structure Nested (less more : Nat) (small large : List (BoundedEntry κ ν)) :
    Prop where
  sublist : small.Sublist large
  distinct : (large.map (·.key)).Nodup
  bounded : small.length ≤ less
  room : large.length + less ≤ small.length + more

theorem Nested.bounded_large (nested : Nested less more small large) :
    large.length ≤ more := by
  have bounded := nested.bounded
  have room := nested.room
  omega

theorem nodup_concat (distinct : (large.map (·.key)).Nodup)
    (sublist : small.Sublist large)
    (apart : ∀ other ∈ small, other.key ≠ entry.key) :
    ((small ++ [entry]).map (·.key)).Nodup := by
  have kept : (small.map (·.key)).Nodup := (sublist.map _).nodup distinct
  rw [List.map_append, List.map_singleton, ← List.concat_eq_append]
  refine (List.nodup_concat _ _).mpr ⟨?_, kept⟩
  intro member
  obtain ⟨other, held, same⟩ := List.mem_map.mp member
  exact apart other held same

/-- What is removed from both maps leaves the larger one at most as far
ahead. -/
theorem length_filter_add_le {α : Type} {items others : List α}
    (sublist : items.Sublist others) (keep : α → Bool) :
    (others.filter keep).length + items.length ≤
        others.length + (items.filter keep).length := by
  have removed := (sublist.filter fun item => !keep item).length_le
  have parts := items.length_eq_length_filter_add keep
  have otherParts := others.length_eq_length_filter_add keep
  omega

theorem Nested.filter (nested : Nested less more small large)
    (keep : BoundedEntry κ ν → Bool) :
    Nested less more (small.filter keep) (large.filter keep) where
  sublist := nested.sublist.filter keep
  distinct := (List.filter_sublist.map _).nodup nested.distinct
  bounded := Nat.le_trans (List.length_filter_le keep small) nested.bounded
  room := by
    have ahead := length_filter_add_le nested.sublist keep
    have room := nested.room
    omega

/-- An entry that is used by both maps becomes the last one of both. -/
theorem Nested.concat {kept alsoKept : List (BoundedEntry κ ν)}
    (nested : Nested less more small large) (sublist : kept.Sublist alsoKept)
    (within : alsoKept.Sublist large)
    (apart : ∀ other ∈ alsoKept, other.key ≠ entry.key)
    (bounded : kept.length < less)
    (room : alsoKept.length + less ≤ kept.length + more) :
    Nested less more (kept ++ [entry]) (alsoKept ++ [entry]) where
  sublist := sublist.append (List.Sublist.refl _)
  distinct := nodup_concat nested.distinct within apart
  bounded := by
    rw [List.length_append, List.length_singleton]
    exact bounded
  room := by
    rw [List.length_append, List.length_append, List.length_singleton]
    omega

variable [DecidableEq κ]

/-- The larger map may lose an entry that only it holds. -/
theorem Nested.without (nested : Nested less more small large)
    (absent : ∀ other ∈ small, other.key ≠ key) :
    Nested less more small (others key large) := by
  have filtered := nested.filter fun other => decide (other.key ≠ key)
  have untouched := others_eq_self absent
  rw [others] at untouched
  rw [untouched] at filtered
  exact filtered

/-- A key that only the larger map holds costs it no room when something is put
under it. A key that neither holds makes the larger one drop an entry only if
the smaller one is full as well. -/
theorem Nested.kept (nested : Nested less more small large)
    (positive : 0 < less) (key : κ) :
    (BoundedMap.kept less key small).Sublist (BoundedMap.kept more key large) ∧
      (BoundedMap.kept more key large).length + less ≤
        (BoundedMap.kept less key small).length + more := by
  have bounded := nested.bounded
  have boundedLarge := nested.bounded_large
  have room := nested.room
  by_cases absent : ∀ other ∈ large, other.key ≠ key
  · have alsoAbsent : ∀ other ∈ small, other.key ≠ key :=
      fun other member => absent other (nested.sublist.subset member)
    rw [kept_of_absent absent, kept_of_absent alsoAbsent, length_makeRoom,
      length_makeRoom]
    constructor
    · have later : large.length + 1 - more ≤ small.length + 1 - less := by omega
      exact (List.drop_sublist_drop_left small later).trans
        (nested.sublist.drop _)
    · have shorter := nested.sublist.length_le
      omega
  · push Not at absent
    obtain ⟨held, member, rfl⟩ := absent
    have fewer := length_others nested.distinct member
    rw [kept_of_held member rfl]
    by_cases alsoHeld : held ∈ small
    · have alsoFewer :=
        length_others ((nested.sublist.map _).nodup nested.distinct) alsoHeld
      rw [kept_of_held alsoHeld rfl]
      exact ⟨nested.sublist.filter _, by omega⟩
    · have alsoAbsent : ∀ other ∈ small, other.key ≠ held.key := by
        intro other there same
        have both :=
          List.inj_on_of_nodup_map nested.distinct
            (nested.sublist.subset there) member
          same
        exact alsoHeld (both ▸ there)
      have whole := (nested.without alsoAbsent).sublist
      rw [kept_of_absent alsoAbsent, length_makeRoom]
      exact ⟨(List.drop_sublist _ small).trans whole, by omega⟩

/-- An entry that only the larger map holds becomes its last one. -/
theorem Nested.use_larger (nested : Nested less more small large)
    (member : entry ∈ large) (absent : ∀ other ∈ small, other.key ≠ entry.key) :
    Nested less more small (others entry.key large ++ [entry]) where
  sublist :=
    (nested.without absent).sublist.trans (List.sublist_append_left _ _)
  distinct := nodup_concat nested.distinct (others_sublist _ _)
    fun _ there => (mem_others_iff.mp there).2
  bounded := nested.bounded
  room := by
    have fewer := length_others nested.distinct member
    have room := nested.room
    rw [List.length_append, List.length_singleton]
    omega

/-- An entry that both maps hold becomes the last one of both. -/
theorem Nested.use (nested : Nested less more small large)
    (member : entry ∈ small) :
    Nested less more (others entry.key small ++ [entry])
        (others entry.key large ++ [entry]) := by
  have bounded := nested.bounded
  have room := nested.room
  have fewer :=
    length_others ((nested.sublist.map _).nodup nested.distinct) member
  have alsoFewer := length_others nested.distinct (nested.sublist.subset member)
  exact nested.concat (nested.sublist.filter _) (others_sublist _ _)
    (fun _ there => (mem_others_iff.mp there).2) (by omega) (by omega)

end BoundedMap

namespace TimedMap

open BoundedMap

variable {κ ν : Type} {small large : TimedMap κ ν}

/-- Whether a map is a part of another one at the same time, whose capacity may
be larger. -/
structure IsWithin (small large : TimedMap κ ν) : Prop where
  now : small.now = large.now
  maxAge : small.map.maxAge = large.map.maxAge
  nested :
    Nested small.map.capacity large.map.capacity small.map.entries
      large.map.entries

/-- Whether an answer that is a value is also given by the other map. -/
def Matches (answer other : Option ν) : Prop :=
  ∀ value, answer = some value → other = some value

theorem matches_none (other : Option ν) : Matches none other := by
  intro value given
  cases given

theorem matches_self (answer : Option ν) : Matches answer answer :=
  fun _ given => given

theorem IsWithin.withEntries (within : IsWithin small large)
    {entries others : List (BoundedEntry κ ν)}
    (nested : Nested small.map.capacity large.map.capacity entries others) :
    IsWithin { small with map := { small.map with entries := entries } }
      { large with map := { large.map with entries := others } } where
  now := within.now
  maxAge := within.maxAge
  nested := nested

theorem IsWithin.filter (within : IsWithin small large)
    (keep : BoundedEntry κ ν → Bool) :
    IsWithin { small with
      map := { small.map with entries := small.map.entries.filter keep } }
      { large with
          map :=
              { large.map with entries := large.map.entries.filter keep } } :=
  within.withEntries (within.nested.filter keep)

theorem IsWithin.live (within : IsWithin small large) (now : Nat) :
    Nested small.map.capacity large.map.capacity (small.map.live now)
        (large.map.live now) := by
  unfold BoundedMap.live
  rw [within.maxAge]
  exact within.nested.filter _

theorem isWithin_empty {less more : Nat} (larger : less ≤ more)
    (maxAge now : Nat) :
    IsWithin (empty less maxAge now : TimedMap κ ν)
      (empty more maxAge now) where
  now := rfl
  maxAge := rfl
  nested := {
    sublist := List.Sublist.refl _
    distinct := List.nodup_nil
    bounded := Nat.zero_le less
    room := Nat.add_le_add_left larger 0 }

variable [DecidableEq κ]

/-- A map without capacity stays empty, and what is put into the other one is
only ahead. -/
theorem IsWithin.put (within : IsWithin small large) (key : κ) (value : ν) :
    IsWithin (small.run (.put key value)).2 (large.run (.put key value)).2 where
  now := within.now
  maxAge := by simpa using within.maxAge
  nested := by
    have shorter := within.nested.sublist.length_le
    have bounded := within.nested.bounded
    have room := within.nested.room
    have live := within.live large.now
    rw [capacity_run, capacity_run]
    dsimp only [run]
    by_cases largeZero : large.map.capacity = 0
    · rw [put_of_zero largeZero, put_of_zero (by omega)]
      exact within.nested
    · have lastApart :
          ∀ other ∈ kept large.map.capacity key (large.map.live large.now),
            other.key ≠ key :=
        fun other member => key_ne_of_mem_kept member
      rw [entries_put largeZero]
      by_cases smallZero : small.map.capacity = 0
      · have nothing : small.map.entries = [] :=
          List.length_eq_zero_iff.mp (by omega)
        have fewer :=
          length_kept_lt key (Nat.pos_of_ne_zero largeZero) live.bounded_large
        rw [put_of_zero smallZero, nothing]
        refine ⟨List.nil_sublist _,
          nodup_concat live.distinct (kept_sublist _ _ _) lastApart, ?_,
          ?_⟩
        · exact Nat.zero_le _
        · rw [List.length_append, List.length_singleton, List.length_nil]
          omega
      · have positive := Nat.pos_of_ne_zero smallZero
        obtain ⟨keptNested, keptRoom⟩ := live.kept positive key
        rw [entries_put smallZero, within.now]
        exact live.concat keptNested (kept_sublist _ _ _) lastApart
          (length_kept_lt key positive live.bounded) keptRoom

theorem IsWithin.find? (within : IsWithin small large) {key : κ}
    {entry : BoundedEntry κ ν} (found : small.map.find? key = some entry) :
    large.map.find? key = some entry := by
  obtain ⟨member, rfl⟩ := mem_of_find? found
  exact find?_eq_some_of_mem within.nested.distinct
    (within.nested.sublist.subset member)

/-- What the smaller map gives, the larger one gives as well. What only the
larger one gives is then its last entry. -/
theorem IsWithin.get (within : IsWithin small large) (key : κ) :
    IsWithin (small.run (.get key)).2 (large.run (.get key)).2 ∧
      Matches (small.run (.get key)).1 (large.run (.get key)).1 := by
  dsimp only [run]
  rcases small.map.get_cases small.now key with
    ⟨missing, got⟩ | ⟨entry, held, ⟨expired, got⟩ | ⟨fresh, got⟩⟩
  · refine ⟨?_, by rw [got]; exact matches_none _⟩
    have absent := key_ne_of_find? missing
    rcases large.map.get_cases large.now key with
      ⟨_, gotLarge⟩ | ⟨entry, found, ⟨_, gotLarge⟩ | ⟨_, gotLarge⟩⟩
    · rw [got, gotLarge]
      exact within
    · rw [got, gotLarge]
      exact within.withEntries (within.nested.without absent)
    · obtain ⟨member, rfl⟩ := mem_of_find? found
      rw [got, gotLarge]
      exact within.withEntries (within.nested.use_larger member absent)
  · have expiredLarge := expired
    rw [within.now, within.maxAge] at expiredLarge
    rw [got, get_of_expired (within.find? held) expiredLarge]
    exact ⟨within.filter _, matches_none _⟩
  · have freshLarge := fresh
    rw [within.now, within.maxAge] at freshLarge
    rw [got, get_of_live (within.find? held) freshLarge]
    obtain ⟨member, rfl⟩ := mem_of_find? held
    exact ⟨within.withEntries (within.nested.use member), matches_self _⟩

theorem IsWithin.run (within : IsWithin small large) (call : MapCall κ ν) :
    IsWithin (small.run call).2 (large.run call).2 ∧
      Matches (small.run call).1 (large.run call).1 := by
  cases call with
  | put key value => exact ⟨within.put key value, matches_self _⟩
  | get key => exact within.get key
  | remove key =>
      refine ⟨within.filter _, ?_⟩
      intro value given
      obtain ⟨entry, found, rfl⟩ := Option.map_eq_some_iff.mp given
      exact Option.map_eq_some_iff.mpr ⟨entry, within.find? found, rfl⟩
  | retain keep => exact ⟨within.filter _, matches_self _⟩
  | clear =>
      refine ⟨within.withEntries ?_, matches_self _⟩
      have cleared := within.nested.filter fun _ => false
      rw [List.filter_false, List.filter_false] at cleared
      exact cleared
  | advance nanoseconds =>
      exact ⟨⟨congrArg (· + nanoseconds) within.now, within.maxAge,
        within.nested⟩,
        matches_self _⟩

theorem IsWithin.runAll (calls : List (MapCall κ ν))
    (within : IsWithin small large) :
    IsWithin (runAll calls small).2 (runAll calls large).2 ∧
      List.Forall₂ Matches (runAll calls small).1 (runAll calls large).1 := by
  induction calls generalizing small large with
  | nil => exact ⟨within, .nil⟩
  | cons call rest inductionHypothesis =>
      obtain ⟨stillWithin, answered⟩ := within.run call
      obtain ⟨finalWithin, answers⟩ := inductionHypothesis stillWithin
      exact ⟨finalWithin, .cons answered answers⟩

/-- A larger map does no worse: after the same calls it holds what the smaller
one holds, with the same value and the same time of creation and in the same
order, and it has given every value that the smaller one has given. -/
theorem larger_map_does_no_worse {less more : Nat} (larger : less ≤ more)
    (maxAge now : Nat) (calls : List (MapCall κ ν)) :
    let small := (TimedMap.empty less maxAge now).runAll calls
    let large := (TimedMap.empty more maxAge now).runAll calls
    (∀ key entry,
      small.2.map.find? key = some entry → large.2.map.find? key = some entry) ∧
      small.2.map.entries.Sublist large.2.map.entries ∧
      large.2.map.keys.Nodup ∧
      List.Forall₂ Matches small.1 large.1 := by
  intro small large
  obtain ⟨within, answers⟩ := (isWithin_empty larger maxAge now).runAll calls
  exact ⟨fun _ _ found =>
    within.find? found, within.nested.sublist, within.nested.distinct,
    answers⟩

/-- The larger map still holds the first key when it is asked for, which makes
it more recent than the second one there only. -/
theorem map_of_two_does_no_worse_than_map_of_one :
    let calls : List (MapCall Nat Nat) :=
      [.put 1 10, .put 2 20, .get 1, .advance 5, .get 2, .put 3 30, .get 1]
    let small := (empty 1 60 0).runAll calls
    let large := (empty 2 60 0).runAll calls
    1 ≤ 2 ∧
      small.1 = [none, none, none, none, some 20, none, none] ∧
      large.1 = [none, none, some 10, none, some 20, none, none] ∧
      small.2.map.entries = [⟨3, 30, 5⟩] ∧
      large.2.map.entries = [⟨2, 20, 0⟩, ⟨3, 30, 5⟩] ∧
      (∀ key entry,
        small.2.map.find? key = some entry →
          large.2.map.find? key = some entry) ∧
      small.2.map.entries.Sublist large.2.map.entries ∧
      large.2.map.keys.Nodup ∧
      List.Forall₂ Matches small.1 large.1 :=
  ⟨by decide, by decide, by decide, by decide, by decide,
    larger_map_does_no_worse (by decide) 60 0
    [.put 1 10, .put 2 20, .get 1, .advance 5, .get 2, .put 3 30, .get 1]⟩

end TimedMap

end CachedDirectory
