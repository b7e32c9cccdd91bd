import CachedDirectory.Proofs.BoundedMaps
import Mathlib.Data.List.DropRight

/-!
# The order of last uses

What happened to a bounded map is a list of events: the calls with their times
and answers. A key is used when something is put under it and when asking for it
is answered with a value. The entries of a map are in the order of the last uses
of their keys, while the age of each is counted from the last time that
something was put under its key.
-/

namespace CachedDirectory

/-- What happened to a bounded map: a call, the time at which it was made and
its answer. -/
structure MapEvent (κ ν : Type) where
  call : MapCall κ ν
  now : Nat
  answer : Option ν

variable {κ ν : Type} [DecidableEq κ]

/-- Whether a call neither replaces nor removes what is held under a key. -/
def MapCall.spares (key : κ) : MapCall κ ν → Bool
  | .put other _ | .remove other => other ≠ key
  | .get _ | .advance _ => true
  | .retain keep => keep key
  | .clear => false

namespace MapEvent

/-- Whether something was put under a key, or a value was given for it. -/
def uses (key : κ) (event : MapEvent κ ν) : Bool :=
  match event.call with
  | .put other _ => other = key
  | .get other => other = key && event.answer.isSome
  | .remove _ | .retain _ | .clear | .advance _ => false

/-- The number of events up to the last one that uses a key, zero if there is
none. -/
def lastUse (key : κ) (past : List (MapEvent κ ν)) : Nat :=
  (past.rdropWhile fun event => !event.uses key).length

/-- Whether a value was put under a key at a time and was neither replaced nor
removed since. -/
def IsStored (past : List (MapEvent κ ν)) (key : κ) (value : ν) (time : Nat) :
    Prop :=
  ∃ earlier later, past = earlier ++ ⟨.put key value, time, none⟩ :: later ∧
    ∀ event ∈ later, event.call.spares key = true

variable {past : List (MapEvent κ ν)} {event : MapEvent κ ν} {key : κ}
  {value : ν} {time : Nat}

theorem lastUse_le (key : κ) (past : List (MapEvent κ ν)) :
    lastUse key past ≤ past.length :=
  (List.rdropWhile_prefix _ past).length_le

theorem lastUse_concat_of_uses (used : event.uses key = true) :
    lastUse key (past ++ [event]) = past.length + 1 := by
  simp [lastUse, used]

theorem lastUse_concat_of_not_uses (unused : event.uses key = false) :
    lastUse key (past ++ [event]) = lastUse key past := by
  simp [lastUse, unused]

theorem isStored_concat_put (past : List (MapEvent κ ν)) (key : κ) (value : ν)
    (time : Nat) :
    IsStored (past ++ [⟨.put key value, time, none⟩]) key value time :=
  ⟨past, [], rfl, fun _ member => nomatch member⟩

theorem IsStored.concat (stored : IsStored past key value time)
    (spared : event.call.spares key = true) :
    IsStored (past ++ [event]) key value time := by
  obtain ⟨earlier, later, rfl, sparing⟩ := stored
  refine ⟨earlier, later ++ [event], by simp, ?_⟩
  intro other member
  rcases List.mem_append.mp member with before | last
  · exact sparing other before
  · rw [List.mem_singleton.mp last]
    exact spared

end MapEvent

namespace TimedMap

open BoundedMap MapEvent

variable {state : TimedMap κ ν} {call : MapCall κ ν}
  {past : List (MapEvent κ ν)}
  {kept : List (BoundedEntry κ ν)} {last : Option (BoundedEntry κ ν)}

/-- What happens to a map by a call. -/
def event (state : TimedMap κ ν) (call : MapCall κ ν) : MapEvent κ ν :=
  ⟨call, state.now, (state.run call).1⟩

/-- What happens to a map by calls. -/
def events : List (MapCall κ ν) → TimedMap κ ν → List (MapEvent κ ν)
  | [], _ => []
  | call :: rest, state => state.event call :: events rest (state.run call).2

/-- What a call does to the entries: some are kept, in their order, which it
neither uses nor removes, and at most one is used and comes last. -/
structure Renews (state : TimedMap κ ν) (call : MapCall κ ν)
    (kept : List (BoundedEntry κ ν)) (last : Option (BoundedEntry κ ν)) :
    Prop where
  entries : (state.run call).2.map.entries = kept ++ last.toList
  sublist : kept.Sublist state.map.entries
  fits : (kept ++ last.toList).length ≤ state.map.capacity
  unused : ∀ entry ∈ kept, (state.event call).uses entry.key = false
  spared : ∀ entry ∈ kept, call.spares entry.key = true
  used : ∀ entry ∈ last, (state.event call).uses entry.key = true
  stored :
    ∀ entry ∈ last,
      state.event call = ⟨.put entry.key entry.value, entry.created, none⟩ ∨
    entry ∈ state.map.entries ∧ call.spares entry.key = true

/-- A call that uses nothing only removes entries. -/
theorem renews_of_kept (bounded : state.map.entries.length ≤ state.map.capacity)
    (entries : (state.run call).2.map.entries = kept)
    (sublist : kept.Sublist state.map.entries)
    (unused : ∀ entry ∈ kept, (state.event call).uses entry.key = false)
    (spared : ∀ entry ∈ kept, call.spares entry.key = true) :
    Renews state call kept none where
  entries := by simpa using entries
  sublist := sublist
  fits := by
    have fewer := sublist.length_le
    simp
    omega
  unused := unused
  spared := spared
  used := fun _ member => nomatch member
  stored := fun _ member => nomatch member

theorem exists_renews_put
    (bounded : state.map.entries.length ≤ state.map.capacity) (key : κ)
    (value : ν) : ∃ kept last, Renews state (.put key value) kept last := by
  by_cases zero : state.map.capacity = 0
  · have nothing : state.map.entries = [] :=
      List.length_eq_zero_iff.mp (by omega)
    have unchanged : (state.run (.put key value)).2.map.entries = [] := by
      dsimp only [run]
      rw [put_of_zero zero, nothing]
    exact ⟨[], none, renews_of_kept bounded unchanged (List.nil_sublist _)
      (fun _ member => nomatch member) fun _ member => nomatch member⟩
  · have fewer := length_kept_lt key (Nat.pos_of_ne_zero zero)
      (Nat.le_trans (live_sublist state.map state.now).length_le bounded)
    have apart :
        ∀ entry ∈ BoundedMap.kept state.map.capacity key
          (state.map.live state.now),
          key ≠ entry.key :=
      fun entry member => (key_ne_of_mem_kept member).symm
    refine ⟨BoundedMap.kept state.map.capacity key (state.map.live state.now),
      some ⟨key, value, state.now⟩, ?_⟩
    exact {
      entries := entries_put zero
      sublist := (kept_sublist _ _ _).trans (live_sublist _ _)
      fits := by
        simp
        omega
      unused :=
        fun entry member => by simpa [event, uses] using apart entry member
      spared :=
        fun entry member => by simpa [MapCall.spares] using apart entry member
      used := fun entry member => by
        cases member
        simp [event, uses]
      stored := fun entry member => by
        cases member
        exact Or.inl rfl }

theorem exists_renews_get
    (bounded : state.map.entries.length ≤ state.map.capacity) (key : κ) :
    ∃ kept last, Renews state (.get key) kept last := by
  rcases state.map.get_cases state.now key with
    ⟨_, got⟩ | ⟨entry, found, ⟨_, got⟩ | ⟨_, got⟩⟩
  · exact ⟨state.map.entries, none, renews_of_kept bounded (by simp [run, got])
      (List.Sublist.refl _) (fun _ _ => by simp [event, uses, run, got])
        fun _ _ => rfl⟩
  · exact ⟨others key state.map.entries, none,
      renews_of_kept bounded (by simp [run, got])
      (others_sublist _ _) (fun _ _ => by simp [event, uses, run, got])
        fun _ _ => rfl⟩
  · obtain ⟨member, rfl⟩ := mem_of_find? found
    have fewer := length_others_lt member
    refine ⟨others entry.key state.map.entries, some entry, ?_⟩
    exact {
      entries := by simp [run, got]
      sublist := others_sublist _ _
      fits := by
        simp
        omega
      unused := fun other there => by
        have apart := (mem_others_iff.mp there).2
        simp [event, uses, apart.symm]
      spared := fun _ _ => rfl
      used := fun other same => by
        cases same
        simp [event, uses, run, got]
      stored := fun other same => by
        cases same
        exact Or.inr ⟨member, rfl⟩ }

theorem exists_renews (bounded : state.map.entries.length ≤ state.map.capacity)
    (call : MapCall κ ν) : ∃ kept last, Renews state call kept last := by
  cases call with
  | put key value => exact exists_renews_put bounded key value
  | get key => exact exists_renews_get bounded key
  | remove key =>
      refine ⟨others key state.map.entries, none,
        renews_of_kept bounded rfl (others_sublist _ _)
        (fun _ _ => rfl) ?_⟩
      intro entry member
      simpa [MapCall.spares] using (mem_others_iff.mp member).2.symm
  | retain keep =>
      refine ⟨_, none,
        renews_of_kept bounded rfl List.filter_sublist (fun _ _ => rfl) ?_⟩
      intro entry member
      exact (List.mem_filter.mp member).2
  | clear =>
      exact ⟨[], none,
        renews_of_kept bounded rfl (List.nil_sublist _) (fun _ _ => rfl)
        fun _ member => nomatch member⟩
  | advance nanoseconds =>
      exact ⟨_, none,
        renews_of_kept bounded rfl (List.Sublist.refl _) (fun _ _ => rfl)
        fun _ _ => rfl⟩

/-- Whether the entries of a map are those that its past accounts for. -/
structure Remembers (past : List (MapEvent κ ν)) (state : TimedMap κ ν) :
    Prop where
  bounded : state.map.entries.length ≤ state.map.capacity
  ordered : state.map.entries.Pairwise fun entry later =>
    lastUse entry.key past < lastUse later.key past
  used : ∀ entry ∈ state.map.entries, 0 < lastUse entry.key past
  stored :
    ∀ entry ∈ state.map.entries,
      IsStored past entry.key entry.value entry.created

theorem remembers_empty (capacity maxAge now : Nat) :
    Remembers [] (empty capacity maxAge now : TimedMap κ ν) where
  bounded := Nat.zero_le capacity
  ordered := List.Pairwise.nil
  used := fun _ member => nomatch member
  stored := fun _ member => nomatch member

theorem Remembers.run (remembers : Remembers past state) (call : MapCall κ ν) :
    Remembers (past ++ [state.event call]) (state.run call).2 := by
  obtain ⟨kept, last, renews⟩ := exists_renews remembers.bounded call
  have keptUse : ∀ entry ∈ kept,
      lastUse entry.key (past ++ [state.event call]) = lastUse entry.key past :=
    fun entry member => lastUse_concat_of_not_uses (renews.unused entry member)
  have lastUses : ∀ entry ∈ last,
      lastUse entry.key (past ++ [state.event call]) = past.length + 1 :=
    fun entry member => lastUse_concat_of_uses (renews.used entry member)
  constructor
  · rw [capacity_run, renews.entries]
    exact renews.fits
  · rw [renews.entries]
    refine List.pairwise_append.mpr ⟨?_, ?_, ?_⟩
    · refine (remembers.ordered.sublist renews.sublist).imp_of_mem ?_
      intro entry later member laterMember before
      rw [keptUse entry member, keptUse later laterMember]
      exact before
    · cases last with
      | none => exact List.Pairwise.nil
      | some entry => exact List.pairwise_singleton _ entry
    · intro entry member later laterMember
      rw [keptUse entry member,
        lastUses later (Option.mem_toList.mp laterMember)]
      exact Nat.lt_succ_of_le (lastUse_le entry.key past)
  · intro entry member
    rw [renews.entries] at member
    rcases List.mem_append.mp member with old | recent
    · rw [keptUse entry old]
      exact remembers.used entry (renews.sublist.subset old)
    · rw [lastUses entry (Option.mem_toList.mp recent)]
      exact Nat.succ_pos past.length
  · intro entry member
    rw [renews.entries] at member
    rcases List.mem_append.mp member with old | recent
    · exact (remembers.stored entry (renews.sublist.subset old)).concat
        (renews.spared entry old)
    · rcases renews.stored entry (Option.mem_toList.mp recent) with
          put | ⟨there, spared⟩
      · rw [put]
        exact isStored_concat_put past entry.key entry.value entry.created
      · exact (remembers.stored entry there).concat spared

theorem Remembers.runAll (calls : List (MapCall κ ν))
    (remembers : Remembers past state) :
    Remembers (past ++ events calls state) (runAll calls state).2 := by
  induction calls generalizing past state with
  | nil =>
      rw [events, List.append_nil]
      exact remembers
  | cons call rest inductionHypothesis =>
      have final := inductionHypothesis (remembers.run call)
      rw [List.append_assoc] at final
      exact final

theorem Remembers.distinct (remembers : Remembers past state) :
    state.map.keys.Nodup := by
  refine List.pairwise_map.mpr (remembers.ordered.imp ?_)
  intro entry later before same
  rw [same] at before
  exact Nat.lt_irrefl _ before

theorem Remembers.of_given (remembers : Remembers past state) {key : κ}
    {value : ν} (given : (state.map.get state.now key).1 = some value) :
    ∃ time,
        IsStored past key value time ∧ state.now < time + state.map.maxAge := by
  obtain ⟨entry, member, rfl, rfl⟩ := exists_live_of_get_eq_some given
  obtain ⟨there, fresh⟩ := List.mem_filter.mp member
  refine ⟨entry.created, remembers.stored entry there, ?_⟩
  simp [BoundedEntry.isExpired] at fresh
  omega

/-- A full map makes room by dropping the entry that was not used for
longest. -/
theorem Remembers.put_full (remembers : Remembers past state)
    (positive : state.map.capacity ≠ 0) {key : κ}
    (absent : key ∉ state.map.keys)
    (full : (state.map.live state.now).length = state.map.capacity)
    (value : ν) :
    ∃ oldest rest, state.map.live state.now = oldest :: rest ∧
      (∀ other ∈ rest, lastUse oldest.key past < lastUse other.key past) ∧
      (state.map.put state.now key value).entries =
          rest ++ [⟨key, value, state.now⟩] := by
  have apart : ∀ entry ∈ state.map.live state.now, entry.key ≠ key := by
    intro entry member same
    exact absent (List.mem_map.mpr
      ⟨entry, (live_sublist _ _).subset member, same⟩)
  have ordered := remembers.ordered.sublist (live_sublist state.map state.now)
  rw [entries_put positive, kept_of_absent apart]
  unfold makeRoom
  cases live : state.map.live state.now with
  | nil =>
      rw [live] at full
      exact absurd full.symm positive
  | cons oldest rest =>
      rw [live] at full ordered
      have one : (oldest :: rest).length + 1 - state.map.capacity = 1 := by
        omega
      rw [one]
      exact ⟨oldest, rest, rfl, (List.pairwise_cons.mp ordered).1, rfl⟩

/-- A map that is not full, or holds the key, keeps the live entries of all
other keys. -/
theorem Remembers.put_with_room (remembers : Remembers past state)
    (positive : state.map.capacity ≠ 0) {key : κ}
    (room : ¬(key ∉ state.map.keys ∧
      (state.map.live state.now).length = state.map.capacity)) (value : ν) :
    (state.map.put state.now key value).entries =
      others key (state.map.live state.now) ++ [⟨key, value, state.now⟩] := by
  rw [entries_put positive]
  congr 1
  by_cases absent : ∀ entry ∈ state.map.live state.now, entry.key ≠ key
  · have bounded := remembers.bounded
    have sublist := live_sublist state.map state.now
    have fewer := sublist.length_le
    have notFull : (state.map.live state.now).length ≠ state.map.capacity := by
      intro full
      have all : state.map.live state.now = state.map.entries :=
        sublist.eq_of_length (by omega)
      apply room
      refine ⟨?_, full⟩
      intro held
      obtain ⟨entry, member, same⟩ := List.mem_map.mp held
      rw [← all] at member
      exact absent entry member same
    rw [kept_of_absent absent, others_eq_self absent]
    unfold makeRoom
    have none :
        (state.map.live state.now).length + 1 - state.map.capacity = 0 := by
      omega
    rw [none]
    rfl
  · push Not at absent
    obtain ⟨entry, member, same⟩ := absent
    exact kept_of_held member same

/-- A bounded map forgets what was not used for longest, and what is too old.
Its keys are distinct and in the order of their last uses. What it gives was put
last under the key, less than the maximal age ago, and was not removed since;
giving it changes no entry. Putting something into it drops a live entry of
another key only if the map is full and does not hold the key, and then the one
that was not used for longest. -/
theorem forgets_least_recent (capacity maxAge start : Nat)
    (calls : List (MapCall κ ν)) :
    let past := events calls (empty capacity maxAge start)
    let state := (runAll calls (empty capacity maxAge start)).2
    state.map.keys.Nodup ∧
      state.map.size ≤ capacity ∧
      (∀ key ∈ state.map.keys, 0 < lastUse key past) ∧
      (state.map.keys.Pairwise fun key later =>
        lastUse key past < lastUse later past) ∧
      (∀ key value, (state.map.get state.now key).1 = some value →
        ∃ time, IsStored past key value time ∧ state.now < time + maxAge) ∧
      (∀ key,
        ∀ entry ∈ (state.map.get state.now key).2.entries,
          entry ∈ state.map.entries) ∧
      ∀ key value, capacity ≠ 0 →
        let live := state.map.live state.now
        let after := (state.map.put state.now key value).entries
        (key ∉ state.map.keys ∧ live.length = capacity →
          ∃ oldest rest, live = oldest :: rest ∧
            (∀ other ∈ rest, lastUse oldest.key past < lastUse other.key past) ∧
            after = rest ++ [⟨key, value, state.now⟩]) ∧
        (¬(key ∉ state.map.keys ∧ live.length = capacity) →
          after = others key live ++ [⟨key, value, state.now⟩]) := by
  intro past state
  have remembers : Remembers past state :=
    (remembers_empty capacity maxAge start).runAll calls
  have sameCapacity : state.map.capacity = capacity := capacity_runAll calls _
  have sameAge : state.map.maxAge = maxAge := maxAge_runAll calls _
  clear_value past state
  subst capacity maxAge
  refine ⟨remembers.distinct, remembers.bounded, ?_,
    List.pairwise_map.mpr remembers.ordered,
    fun _ _ given =>
      remembers.of_given given, fun _ _ there => mem_entries_get there, ?_⟩
  · intro key held
    obtain ⟨entry, member, rfl⟩ := List.mem_map.mp held
    exact remembers.used entry member
  · intro key value positive
    exact ⟨fun full => remembers.put_full positive full.1 full.2 value,
      fun room => remembers.put_with_room positive room value⟩

/-- The second key was put last, but the first one was asked for since. -/
theorem map_of_two_forgets_least_recent :
    let calls : List (MapCall Nat Nat) :=
      [.put 1 10, .put 2 20, .get 1, .advance 5]
    let past := events calls (empty 2 60 0)
    let state := (runAll calls (empty 2 60 0)).2
    let live := state.map.live state.now
    let after := (state.map.put state.now 3 30).entries
    state.map.keys = [2, 1] ∧
      (state.map.get state.now 1).1 = some 10 ∧
      (∃ time, IsStored past 1 10 time ∧ state.now < time + 60) ∧
      3 ∉ state.map.keys ∧
      live.length = 2 ∧
      after = [⟨1, 10, 0⟩, ⟨3, 30, 5⟩] ∧
      ∃ oldest rest, live = oldest :: rest ∧
        (∀ other ∈ rest, lastUse oldest.key past < lastUse other.key past) ∧
        after = rest ++ [⟨3, 30, state.now⟩] := by
  obtain ⟨_, _, _, _, given, _, put⟩ := forgets_least_recent 2 60 0
    ([.put 1 10, .put 2 20, .get 1, .advance 5] : List (MapCall Nat Nat))
  have full := (put 3 30 (by decide)).1 ⟨by decide, by decide⟩
  exact ⟨by decide, by decide,
    given 1 10 (by decide), by decide, by decide, by decide, full⟩

end TimedMap

end CachedDirectory
