import CachedDirectory.Memo.Usage
import Mathlib.Data.List.Nodup

/-!
# Bounded maps, step by step

What a call does to the entries of a bounded map: putting drops the entries that
are too old, makes room and appends; asking moves an entry to the end or drops
it; everything else only removes. A memo asks its map, and drops what it finds
of another generation.
-/

namespace CachedDirectory

namespace BoundedMap

variable {κ ν : Type} {map : BoundedMap κ ν} {now capacity : Nat} {key : κ}
  {value : ν} {entry : BoundedEntry κ ν} {entries : List (BoundedEntry κ ν)}

/-- The entries that have not reached the maximal age. -/
def live (map : BoundedMap κ ν) (now : Nat) : List (BoundedEntry κ ν) :=
  map.entries.filter fun entry => !entry.isExpired map.maxAge now

theorem live_sublist (map : BoundedMap κ ν) (now : Nat) :
    (map.live now).Sublist map.entries :=
  List.filter_sublist

theorem length_makeRoom (capacity : Nat) (entries : List (BoundedEntry κ ν)) :
    (makeRoom capacity entries).length =
        entries.length - (entries.length + 1 - capacity) :=
  List.length_drop

variable [DecidableEq κ]

/-! ## The entries of the other keys -/

theorem mem_others_iff :
    entry ∈ others key entries ↔ entry ∈ entries ∧ entry.key ≠ key := by
  simp [others]

theorem mem_of_mem_others (left : entry ∈ others key entries) :
    entry ∈ entries :=
  (mem_others_iff.mp left).1

theorem others_sublist (key : κ) (entries : List (BoundedEntry κ ν)) :
    (others key entries).Sublist entries :=
  List.filter_sublist

theorem others_eq_self (absent : ∀ entry ∈ entries, entry.key ≠ key) :
    others key entries = entries := by
  apply List.filter_eq_self.mpr
  intro entry member
  simpa using absent entry member

theorem length_others_lt (member : entry ∈ entries) :
    (others entry.key entries).length < entries.length := by
  apply List.length_filter_lt_length_iff_exists.mpr
  exact ⟨entry, member, by simp⟩

/-- Keys that are distinct are removed one at a time. -/
theorem length_others (distinct : (entries.map (·.key)).Nodup)
    (member : entry ∈ entries) :
    (others entry.key entries).length + 1 = entries.length := by
  have once : (entries.map (·.key)).count entry.key = 1 :=
    List.count_eq_one_of_mem distinct (List.mem_map_of_mem member)
  rw [List.count, List.countP_map] at once
  have parts :=
    List.length_eq_countP_add_countP
      (fun other => decide (other.key = entry.key))
    (l := entries)
  have same : entries.countP ((fun other => other == entry.key) ∘ (·.key)) =
      entries.countP fun other => decide (other.key = entry.key) := by
    apply List.countP_congr
    intro other _
    simp
  have rest : (others entry.key entries).length =
      entries.countP fun other =>
          decide ¬decide (other.key = entry.key) = true := by
    rw [others, ← List.countP_eq_length_filter]
    apply List.countP_congr
    intro other _
    simp
  omega

/-! ## Putting -/

/-- The entries that are kept when something is put under a key. -/
def kept (capacity : Nat) (key : κ) (entries : List (BoundedEntry κ ν)) :
    List (BoundedEntry κ ν) :=
  if entries.any fun entry => entry.key = key then others key entries
  else makeRoom capacity entries

theorem put_of_zero (none : map.capacity = 0) : map.put now key value = map :=
  if_pos none

theorem entries_put (some : map.capacity ≠ 0) :
    (map.put now key value).entries =
      kept map.capacity key (map.live now) ++ [⟨key, value, now⟩] := by
  unfold put
  rw [if_neg some]
  rfl

theorem capacity_put : (map.put now key value).capacity = map.capacity := by
  unfold put
  split <;> rfl

theorem maxAge_put : (map.put now key value).maxAge = map.maxAge := by
  unfold put
  split <;> rfl

theorem kept_of_held (member : entry ∈ entries) (same : entry.key = key) :
    kept capacity key entries = others key entries :=
  if_pos (List.any_eq_true.mpr ⟨entry, member, by simpa using same⟩)

theorem kept_of_absent (absent : ∀ entry ∈ entries, entry.key ≠ key) :
    kept capacity key entries = makeRoom capacity entries := by
  apply if_neg
  intro held
  obtain ⟨entry, member, same⟩ := List.any_eq_true.mp held
  exact absent entry member (by simpa using same)

theorem kept_sublist (capacity : Nat) (key : κ)
    (entries : List (BoundedEntry κ ν)) :
    (kept capacity key entries).Sublist entries := by
  unfold kept
  split
  · exact others_sublist key entries
  · exact List.drop_sublist _ entries

theorem key_ne_of_mem_kept (member : entry ∈ kept capacity key entries) :
    entry.key ≠ key := by
  by_cases absent : ∀ other ∈ entries, other.key ≠ key
  · exact absent entry ((kept_sublist capacity key entries).subset member)
  · push Not at absent
    obtain ⟨other, held, same⟩ := absent
    rw [kept_of_held held same] at member
    exact (mem_others_iff.mp member).2

theorem length_kept_lt (key : κ) (positive : 0 < capacity)
    (bounded : entries.length ≤ capacity) :
    (kept capacity key entries).length < capacity := by
  by_cases absent : ∀ other ∈ entries, other.key ≠ key
  · rw [kept_of_absent absent, length_makeRoom]
    omega
  · push Not at absent
    obtain ⟨other, held, same⟩ := absent
    rw [kept_of_held held same, ← same]
    exact Nat.lt_of_lt_of_le (length_others_lt held) bounded

/-- What is in a map after something was put is that, or was there before. -/
theorem mem_entries_put (there : entry ∈ (map.put now key value).entries) :
    entry ∈ map.entries ∨ entry = ⟨key, value, now⟩ := by
  by_cases none : map.capacity = 0
  · rw [put_of_zero none] at there
    exact Or.inl there
  · rw [entries_put none] at there
    rcases List.mem_append.mp there with old | fresh
    · exact Or.inl (((kept_sublist _ _ _).trans (map.live_sublist now)).subset
        old)
    · exact Or.inr (List.mem_singleton.mp fresh)

/-! ## Asking -/

theorem mem_of_find? (found : map.find? key = some entry) :
    entry ∈ map.entries ∧ entry.key = key :=
  ⟨List.mem_of_find?_eq_some found, by simpa using List.find?_some found⟩

theorem key_ne_of_find? (nothing : map.find? key = none) :
    ∀ entry ∈ map.entries, entry.key ≠ key := by
  simpa [find?] using nothing

/-- An entry is found by its key if no other one has it. -/
theorem find?_eq_some_of_mem (distinct : (map.entries.map (·.key)).Nodup)
    (member : entry ∈ map.entries) : map.find? entry.key = some entry := by
  cases found : map.find? entry.key with
  | none => exact absurd rfl (key_ne_of_find? found entry member)
  | some first =>
      obtain ⟨there, same⟩ := mem_of_find? found
      rw [List.inj_on_of_nodup_map distinct there member same]

theorem get_of_expired (found : map.find? key = some entry)
    (expired : entry.isExpired map.maxAge now = true) :
    map.get now key =
        (none, { map with entries := others key map.entries }) := by
  simp [get, found, expired]

theorem get_of_live (found : map.find? key = some entry)
    (fresh : entry.isExpired map.maxAge now = false) :
    map.get now key =
      (some entry.value,
          { map with entries := others key map.entries ++ [entry] }) := by
  simp [get, found, fresh]

/-- Nothing is found, or an entry that is too old and goes, or one that is given
and comes last. -/
theorem get_cases (map : BoundedMap κ ν) (now : Nat) (key : κ) :
    (map.find? key = none ∧ map.get now key = (none, map)) ∨
      ∃ entry, map.find? key = some entry ∧
        ((entry.isExpired map.maxAge now = true ∧
            map.get now key =
              (none, { map with entries := others key map.entries })) ∨
          entry.isExpired map.maxAge now = false ∧
            map.get now key =
              (some entry.value,
                  { map with
                      entries := others key map.entries ++ [entry] })) := by
  cases found : map.find? key with
  | none => exact Or.inl ⟨rfl, by simp [get, found]⟩
  | some entry =>
      refine Or.inr ⟨entry, rfl, ?_⟩
      cases expired : entry.isExpired map.maxAge now with
      | true => exact Or.inl ⟨rfl, get_of_expired found expired⟩
      | false => exact Or.inr ⟨rfl, get_of_live found expired⟩

/-- Asking brings nothing into a map. -/
theorem mem_entries_get (there : entry ∈ (map.get now key).2.entries) :
    entry ∈ map.entries := by
  rcases map.get_cases now key with
      ⟨_, got⟩ | ⟨first, found, ⟨_, got⟩ | ⟨_, got⟩⟩
  · rw [got] at there
    exact there
  · rw [got] at there
    exact mem_of_mem_others there
  · rw [got] at there
    rcases List.mem_append.mp there with other | same
    · exact mem_of_mem_others other
    · rw [List.mem_singleton.mp same]
      exact (mem_of_find? found).1

/-- What is given is the value of an entry under the key that has not reached
the maximal age. -/
theorem exists_live_of_get_eq_some (given : (map.get now key).1 = some value) :
    ∃ entry ∈ map.live now, entry.key = key ∧ entry.value = value := by
  rcases map.get_cases now key with
      ⟨_, got⟩ | ⟨entry, found, ⟨_, got⟩ | ⟨fresh, got⟩⟩
  · rw [got] at given
    cases given
  · rw [got] at given
    cases given
  · rw [got] at given
    cases given
    have member : entry ∈ map.live now :=
      List.mem_filter.mpr ⟨(mem_of_find? found).1, by rw [fresh]; rfl⟩
    exact ⟨entry, member, (mem_of_find? found).2, rfl⟩

theorem exists_of_get_eq_some (given : (map.get now key).1 = some value) :
    ∃ entry ∈ map.entries, entry.key = key ∧ entry.value = value := by
  obtain ⟨entry, fresh, keyed, valued⟩ := exists_live_of_get_eq_some given
  exact ⟨entry, (map.live_sublist now).subset fresh, keyed, valued⟩

end BoundedMap

namespace TimedMap

variable {κ ν : Type} [DecidableEq κ]

@[simp]
theorem capacity_run (state : TimedMap κ ν) (call : MapCall κ ν) :
    (state.run call).2.map.capacity = state.map.capacity := by
  cases call with
  | put key value => exact BoundedMap.capacity_put
  | get key =>
      rcases state.map.get_cases state.now key with
          ⟨_, got⟩ | ⟨_, _, ⟨_, got⟩ | ⟨_, got⟩⟩
      all_goals
        dsimp only [run]
        rw [got]
  | remove | retain | clear | advance => rfl

@[simp]
theorem maxAge_run (state : TimedMap κ ν) (call : MapCall κ ν) :
    (state.run call).2.map.maxAge = state.map.maxAge := by
  cases call with
  | put key value => exact BoundedMap.maxAge_put
  | get key =>
      rcases state.map.get_cases state.now key with
          ⟨_, got⟩ | ⟨_, _, ⟨_, got⟩ | ⟨_, got⟩⟩
      all_goals
        dsimp only [run]
        rw [got]
  | remove | retain | clear | advance => rfl

theorem capacity_runAll (calls : List (MapCall κ ν)) (state : TimedMap κ ν) :
    (runAll calls state).2.map.capacity = state.map.capacity := by
  induction calls generalizing state with
  | nil => rfl
  | cons call rest inductionHypothesis =>
      exact (inductionHypothesis (state.run call).2).trans
        (capacity_run state call)

theorem maxAge_runAll (calls : List (MapCall κ ν)) (state : TimedMap κ ν) :
    (runAll calls state).2.map.maxAge = state.map.maxAge := by
  induction calls generalizing state with
  | nil => rfl
  | cons call rest inductionHypothesis =>
      exact (inductionHypothesis (state.run call).2).trans
        (maxAge_run state call)

end TimedMap

namespace ResolutionMemo

variable {κ ν : Type} [DecidableEq κ] {memo : ResolutionMemo κ ν}
  {now generation : Nat} {key : κ}

/-- A question is answered, or finds an answer of another generation, which
goes, or finds nothing. -/
theorem get_cases (memo : ResolutionMemo κ ν) (now : Nat) (key : κ)
    (generation : Nat) :
    (∃ value answers,
      memo.answers.get now key = (some (generation, value), answers) ∧
        memo.get now key generation =
          (some value,
            { memo with answers := answers, hits := memo.hits + 1 })) ∨
      (∃ found value answers, found ≠ generation ∧
        memo.answers.get now key = (some (found, value), answers) ∧
        memo.get now key generation =
          (none,
            { memo with
              answers := answers.erase key
              misses := memo.misses + 1
              stale := memo.stale + 1 })) ∨
      ∃ answers, memo.answers.get now key = (none, answers) ∧
        memo.get now key generation =
          (none,
              { memo with answers := answers, misses := memo.misses + 1 }) := by
  rcases asked : memo.answers.get now key with ⟨_ | ⟨found, value⟩, answers⟩
  · exact Or.inr (Or.inr ⟨answers, rfl, by simp [get, asked]⟩)
  · by_cases same : found = generation
    · subst same
      exact Or.inl ⟨value, answers, rfl, by simp [get, asked]⟩
    · exact Or.inr (Or.inl
        ⟨found, value, answers, same, rfl, by simp [get, asked, same]⟩)

theorem mem_entries_get {entry : BoundedEntry κ (Nat × ν)}
    (there : entry ∈ (memo.get now key generation).2.answers.entries) :
    entry ∈ memo.answers.entries := by
  have before :
      ∀ entry ∈ (memo.answers.get now key).2.entries,
          entry ∈ memo.answers.entries :=
    fun _ => BoundedMap.mem_entries_get
  rcases memo.get_cases now key generation with
    ⟨_, _, asked, got⟩ | ⟨_, _, _, _, asked, got⟩ | ⟨_, asked, got⟩
  all_goals rw [asked] at before
  all_goals rw [got] at there
  · exact before entry there
  · exact before entry (BoundedMap.mem_of_mem_others there)
  · exact before entry there

/-- A remembered answer is given only for the generation that it was found
for. -/
theorem exists_of_get_eq_some {value : ν}
    (given : (memo.get now key generation).1 = some value) :
    ∃ entry ∈ memo.answers.entries,
        entry.key = key ∧ entry.value = (generation, value) := by
  rcases memo.get_cases now key generation with
    ⟨_, _, asked, got⟩ | ⟨_, _, _, _, asked, got⟩ | ⟨_, asked, got⟩
  all_goals rw [got] at given
  all_goals cases given
  exact BoundedMap.exists_of_get_eq_some (by rw [asked])

end ResolutionMemo

end CachedDirectory
