import CachedDirectory.Proofs.RecencyOrder

/-!
# What a memo gives and counts

What happened to a memo is a list of events: the calls with their times and
answers, and whether an answer of another generation was found. An answer is
remembered from the call that inserted it until another one is inserted under
its key, the memo is emptied, or it is asked for under another generation. The
counts of a memo are those of the questions in its past.
-/

namespace CachedDirectory

variable {κ ν : Type} [DecidableEq κ]

namespace BoundedMap

/-- What is left under the key that was asked for is what was given. -/
theorem get_eq_some_of_mem {map : BoundedMap κ ν} {now : Nat}
    {entry : BoundedEntry κ ν}
    (there : entry ∈ (map.get now entry.key).2.entries) :
    (map.get now entry.key).1 = some entry.value := by
  rcases map.get_cases now entry.key with
      ⟨absent, got⟩ | ⟨first, found, ⟨_, got⟩ | ⟨_, got⟩⟩
  · rw [got] at there
    exact absurd rfl (key_ne_of_find? absent entry there)
  · rw [got] at there
    exact absurd rfl (mem_others_iff.mp there).2
  · rw [got] at there ⊢
    rcases List.mem_append.mp there with other | same
    · exact absurd rfl (mem_others_iff.mp other).2
    · rw [List.mem_singleton.mp same]

theorem find?_put {map : BoundedMap κ ν} {now : Nat} {key : κ} {value : ν}
    (room : map.capacity ≠ 0) :
    (map.put now key value).find? key = some ⟨key, value, now⟩ := by
  have absent :
      (kept map.capacity key (map.live now)).find?
        (fun entry => entry.key = key) =
        none := by
    refine List.find?_eq_none.mpr fun entry member => ?_
    simpa using key_ne_of_mem_kept member
  rw [find?, entries_put room, List.find?_append, absent]
  simp

end BoundedMap

namespace TimedMap

theorem bounded_run (state : TimedMap κ ν) (call : MapCall κ ν)
    (bounded : state.map.entries.length ≤ state.map.capacity) :
    (state.run call).2.map.entries.length ≤ state.map.capacity := by
  obtain ⟨kept, last, renews⟩ := exists_renews bounded call
  rw [renews.entries]
  exact renews.fits

/-- What is in a map after a call was put by it, or was there before and is left
by it. -/
theorem mem_entries_run (state : TimedMap κ ν) (call : MapCall κ ν)
    (bounded : state.map.entries.length ≤ state.map.capacity)
    {entry : BoundedEntry κ ν}
    (there : entry ∈ (state.run call).2.map.entries) :
    state.event call = ⟨.put entry.key entry.value, entry.created, none⟩ ∨
      entry ∈ state.map.entries ∧ call.spares entry.key = true := by
  obtain ⟨kept, last, renews⟩ := exists_renews bounded call
  rw [renews.entries] at there
  rcases List.mem_append.mp there with old | recent
  · exact Or.inr ⟨renews.sublist.subset old, renews.spared entry old⟩
  · exact renews.stored entry (Option.mem_toList.mp recent)

end TimedMap

namespace MemoCall

/-- Whether a call is a question. -/
def asks : MemoCall κ ν → Bool
  | .get _ _ => true
  | .insert _ _ _ | .clear | .advance _ => false

/-- Whether a call leaves what is remembered under a key for a generation: it is
neither replaced nor asked for under another generation. -/
def spares (key : κ) (generation : Nat) : MemoCall κ ν → Bool
  | .insert other _ _ => other ≠ key
  | .get other asked => other ≠ key || asked = generation
  | .clear => false
  | .advance _ => true

end MemoCall

namespace ResolutionMemo

variable {memo : ResolutionMemo κ ν} {now generation : Nat} {key : κ}
  {value : ν}

/-- Whether an answer is found that is young enough, but of another
generation. -/
def findsStale (memo : ResolutionMemo κ ν) (now : Nat) (key : κ)
    (generation : Nat) : Bool :=
  match (memo.answers.get now key).1 with
  | some (found, _) => found ≠ generation
  | none => false

theorem limits_get (memo : ResolutionMemo κ ν) (now : Nat) (key : κ)
    (generation : Nat) :
    (memo.get now key generation).2.answers.capacity = memo.answers.capacity ∧
      (memo.get now key generation).2.answers.maxAge = memo.answers.maxAge := by
  have capacity := TimedMap.capacity_run ⟨memo.answers, now⟩ (.get key)
  have maxAge := TimedMap.maxAge_run ⟨memo.answers, now⟩ (.get key)
  dsimp only [TimedMap.run] at capacity maxAge
  rcases memo.get_cases now key generation with
    ⟨_, _, asked, got⟩ | ⟨_, _, _, _, asked, got⟩ | ⟨_, asked, got⟩
  all_goals
    rw [asked] at capacity maxAge
    rw [got]
    exact ⟨capacity, maxAge⟩

theorem bounded_get (memo : ResolutionMemo κ ν)
    (bounded : memo.answers.entries.length ≤ memo.answers.capacity) (now : Nat)
    (key : κ) (generation : Nat) :
    (memo.get now key generation).2.answers.entries.length ≤
      (memo.get now key generation).2.answers.capacity := by
  rw [(memo.limits_get now key generation).1]
  have fits := TimedMap.bounded_run ⟨memo.answers, now⟩ (.get key) bounded
  dsimp only [TimedMap.run] at fits
  rcases memo.get_cases now key generation with
    ⟨_, _, asked, got⟩ | ⟨_, _, _, _, asked, got⟩ | ⟨_, asked, got⟩
  all_goals
    rw [asked] at fits
    rw [got]
  · exact fits
  · exact (BoundedMap.others_sublist _ _).length_le.trans fits
  · exact fits

theorem findsStale_of_some {found : Nat} {answers : BoundedMap κ (Nat × ν)}
    (generation : Nat)
    (asked : memo.answers.get now key = (some (found, value), answers)) :
    memo.findsStale now key generation = decide (found ≠ generation) := by
  simp [findsStale, asked]

theorem findsStale_of_none {answers : BoundedMap κ (Nat × ν)} (generation : Nat)
    (asked : memo.answers.get now key = (none, answers)) :
    memo.findsStale now key generation = false := by
  simp [findsStale, asked]

theorem get_of_findsStale (stale : memo.findsStale now key generation = true) :
    (memo.get now key generation).1 = none := by
  rcases memo.get_cases now key generation with
    ⟨_, _, asked, _⟩ | ⟨_, _, _, _, _, got⟩ | ⟨_, _, got⟩
  · simp [findsStale_of_some generation asked] at stale
  · rw [got]
  · rw [got]

/-- What was found of another generation is gone, and all else is as it was. -/
theorem entries_of_findsStale
    (stale : memo.findsStale now key generation = true) :
    (memo.get now key generation).2.answers.entries =
      BoundedMap.others key memo.answers.entries := by
  rcases memo.get_cases now key generation with
    ⟨value, answers, asked, _⟩ | ⟨found, value, answers, _, asked, got⟩
      | ⟨answers, asked, _⟩
  · simp [findsStale_of_some generation asked] at stale
  · rw [got]
    dsimp only [BoundedMap.erase]
    rcases memo.answers.get_cases now key with
        ⟨_, told⟩ | ⟨entry, held, ⟨_, told⟩ | ⟨_, told⟩⟩
    · simp [asked] at told
    · simp [asked] at told
    · obtain ⟨_, rfl⟩ := Prod.mk.injEq _ _ _ _ ▸ asked.symm.trans told
      have keyed := (BoundedMap.mem_of_find? held).2
      simp [BoundedMap.others, keyed]
  · simp [findsStale_of_none generation asked] at stale

end ResolutionMemo

/-- What happened to a memo: a call, the time at which it was made, its answer,
and whether an answer of another generation was found. -/
structure MemoEvent (κ ν : Type) where
  call : MemoCall κ ν
  now : Nat
  answer : Option ν
  stale : Bool

namespace MemoEvent

/-- Whether an answer was inserted for a generation at a time, and was since
neither replaced nor dropped nor asked for under another generation. -/
def IsRemembered (past : List (MemoEvent κ ν)) (key : κ) (generation : Nat)
    (value : ν) (time : Nat) : Prop :=
  ∃ earlier later,
    past = earlier ++ ⟨.insert key generation value, time, none,
      false⟩ :: later ∧
    ∀ event ∈ later, event.call.spares key generation = true

variable {past : List (MemoEvent κ ν)} {event : MemoEvent κ ν} {key : κ}
  {generation time : Nat}
  {value : ν}

theorem isRemembered_concat_insert (past : List (MemoEvent κ ν)) (key : κ)
    (generation : Nat) (value : ν) (time : Nat) :
    IsRemembered (past ++ [⟨.insert key generation value, time, none, false⟩])
      key generation value
      time :=
  ⟨past, [], rfl, fun _ member => nomatch member⟩

theorem IsRemembered.concat
    (remembered : IsRemembered past key generation value time)
    (spared : event.call.spares key generation = true) :
    IsRemembered (past ++ [event]) key generation value time := by
  obtain ⟨earlier, later, rfl, sparing⟩ := remembered
  refine ⟨earlier, later ++ [event], by simp, ?_⟩
  intro other member
  rcases List.mem_append.mp member with before | last
  · exact sparing other before
  · rw [List.mem_singleton.mp last]
    exact spared

/-- Whether a question was answered. -/
def isAnswered (event : MemoEvent κ ν) : Bool :=
  event.call.asks && event.answer.isSome

/-- Whether a question was not answered. -/
def isUnanswered (event : MemoEvent κ ν) : Bool :=
  event.call.asks && event.answer.isNone

omit [DecidableEq κ]

theorem countP_concat (holds : MemoEvent κ ν → Bool)
    (past : List (MemoEvent κ ν)) (event : MemoEvent κ ν) :
    (past ++ [event]).countP holds =
        past.countP holds + (holds event).toNat := by
  rw [List.countP_append, List.countP_singleton]
  cases holds event <;> rfl

theorem countP_asks (past : List (MemoEvent κ ν)) :
    past.countP isAnswered + past.countP isUnanswered =
      past.countP fun event => event.call.asks := by
  induction past with
  | nil => rfl
  | cons event past inductionHypothesis =>
      simp only [List.countP_cons]
      rw [← inductionHypothesis]
      by_cases asked : event.call.asks = true
      · cases given :
          event.answer <;> simp [isAnswered, isUnanswered, asked, given] <;>
            omega
      · simp [isAnswered, isUnanswered, asked]

end MemoEvent

namespace TimedMemo

open MemoEvent ResolutionMemo

variable {state : TimedMemo κ ν} {past : List (MemoEvent κ ν)}

/-- Whether a call is a question that finds an answer of another generation. -/
def findsStale (state : TimedMemo κ ν) : MemoCall κ ν → Bool
  | .get key generation => state.memo.findsStale state.now key generation
  | .insert _ _ _ | .clear | .advance _ => false

/-- What happens to a memo by a call. -/
def event (state : TimedMemo κ ν) (call : MemoCall κ ν) : MemoEvent κ ν :=
  ⟨call, state.now, (state.run call).1, state.findsStale call⟩

/-- What happens to a memo by calls. -/
def events : List (MemoCall κ ν) → TimedMemo κ ν → List (MemoEvent κ ν)
  | [], _ => []
  | call :: rest, state => state.event call :: events rest (state.run call).2

/-- Whether a memo holds what its past accounts for. -/
structure Remembers (past : List (MemoEvent κ ν)) (state : TimedMemo κ ν) :
    Prop where
  bounded : state.memo.answers.entries.length ≤ state.memo.answers.capacity
  remembered : ∀ entry ∈ state.memo.answers.entries,
    IsRemembered past entry.key entry.value.1 entry.value.2 entry.created

/-- Whether the counts of a memo are those of its past. -/
structure Counts (past : List (MemoEvent κ ν)) (state : TimedMemo κ ν) :
    Prop where
  hits : state.memo.hits = past.countP isAnswered
  misses : state.memo.misses = past.countP isUnanswered
  stale : state.memo.stale = past.countP (·.stale)
  staleMisses : state.memo.stale ≤ state.memo.misses

theorem remembers_empty (capacity maxAge now : Nat) :
    Remembers [] (empty capacity maxAge now : TimedMemo κ ν) where
  bounded := Nat.zero_le capacity
  remembered := fun _ member => nomatch member

omit [DecidableEq κ] in
theorem counts_empty (capacity maxAge now : Nat) :
    Counts [] (empty capacity maxAge now : TimedMemo κ ν) :=
  ⟨rfl, rfl, rfl, Nat.le_refl 0⟩

/-- What is left after a question was there before, and under its key only an
answer of the generation that was asked for is left. -/
theorem spares_of_mem_get {key : κ} {generation : Nat}
    {entry : BoundedEntry κ (Nat × ν)}
    (there :
      entry ∈ (state.memo.get state.now key generation).2.answers.entries) :
    entry ∈ state.memo.answers.entries ∧
      (MemoCall.get key generation : MemoCall κ ν).spares entry.key
          entry.value.1 = true := by
  refine ⟨ResolutionMemo.mem_entries_get there, ?_⟩
  by_cases keyed : entry.key = key
  · subst keyed
    rcases state.memo.get_cases state.now entry.key generation with
      ⟨value, answers, asked, got⟩
        | ⟨found, value, answers, differs, asked, got⟩ |
        ⟨answers, asked, got⟩
    · rw [got] at there
      have given := BoundedMap.get_eq_some_of_mem (by rwa [asked])
      rw [asked] at given
      have generations := congrArg Prod.fst (Option.some.inj given)
      simpa [MemoCall.spares] using generations
    · rw [got] at there
      exact absurd rfl (BoundedMap.mem_others_iff.mp there).2
    · rw [got] at there
      have given := BoundedMap.get_eq_some_of_mem (by rwa [asked])
      rw [asked] at given
      cases given
  · simp [MemoCall.spares, Ne.symm keyed]

theorem Remembers.run (remembers : Remembers past state) (call : MemoCall κ ν) :
    Remembers (past ++ [state.event call]) (state.run call).2 := by
  obtain ⟨bounded, remembered⟩ := remembers
  cases call with
  | insert key generation value =>
      have fits := TimedMap.bounded_run ⟨state.memo.answers, state.now⟩
        (.put key (generation, value)) bounded
      refine ⟨?_, ?_⟩
      · exact fits.trans_eq BoundedMap.capacity_put.symm
      · rintro ⟨other, ⟨found, remains⟩, created⟩ there
        rcases TimedMap.mem_entries_run ⟨state.memo.answers, state.now⟩
          (.put key (generation, value)) bounded there with put | ⟨old, spared⟩
        · cases put
          exact isRemembered_concat_insert past _ _ _ _
        · exact (remembered _ old).concat spared
  | get key generation =>
      refine ⟨state.memo.bounded_get bounded state.now key generation,
        fun entry there => ?_⟩
      obtain ⟨old, spared⟩ := spares_of_mem_get there
      exact (remembered entry old).concat spared
  | clear => exact ⟨Nat.zero_le _, fun _ member => nomatch member⟩
  | advance nanoseconds =>
      exact ⟨bounded, fun entry there => (remembered entry there).concat rfl⟩

theorem Remembers.of_given (remembers : Remembers past state) {key : κ}
    {generation : Nat} {value : ν}
    (given : (state.memo.get state.now key generation).1 = some value) :
    ∃ time, IsRemembered past key generation value time ∧
      state.now < time + state.memo.answers.maxAge := by
  rcases state.memo.get_cases state.now key generation with
    ⟨served, answers, asked, got⟩ | ⟨_, _, _, _, _, got⟩ | ⟨_, _, got⟩
  · rw [got] at given
    cases given
    obtain ⟨entry, member, rfl, valued⟩ :=
      BoundedMap.exists_live_of_get_eq_some (congrArg Prod.fst asked)
    obtain ⟨there, fresh⟩ := List.mem_filter.mp member
    have remembered := remembers.remembered entry there
    rw [valued] at remembered
    refine ⟨entry.created, remembered, ?_⟩
    simp [BoundedEntry.isExpired] at fresh
    omega
  · rw [got] at given
    cases given
  · rw [got] at given
    cases given

/-- What a call adds to the counts. Only a question that is not answered finds
an answer of another generation. -/
theorem counts_run (state : TimedMemo κ ν) (call : MemoCall κ ν) :
    let event := state.event call
    let after := (state.run call).2.memo
    after.hits = state.memo.hits + event.isAnswered.toNat ∧
      after.misses = state.memo.misses + event.isUnanswered.toNat ∧
      after.stale = state.memo.stale + event.stale.toNat ∧
      event.stale.toNat ≤ event.isUnanswered.toNat := by
  intro event after
  cases call with
  | insert | clear | advance => exact ⟨rfl, rfl, rfl, Nat.le_refl 0⟩
  | get key generation =>
      rcases state.memo.get_cases state.now key generation with
        ⟨value, answers, asked, got⟩
          | ⟨found, value, answers, differs, asked, got⟩ |
          ⟨answers, asked, got⟩
      · have current := findsStale_of_some generation asked
        simp [event, after, TimedMemo.event, run, findsStale, current, got,
          isAnswered, isUnanswered, MemoCall.asks]
      · have stale := findsStale_of_some generation asked
        simp [event, after, TimedMemo.event, run, findsStale, stale, differs,
          got, isAnswered, isUnanswered, MemoCall.asks]
      · have nothing := findsStale_of_none generation asked
        simp [event, after, TimedMemo.event, run, findsStale, nothing, got,
          isAnswered, isUnanswered, MemoCall.asks]

theorem Counts.run (counts : Counts past state) (call : MemoCall κ ν) :
    Counts (past ++ [state.event call]) (state.run call).2 := by
  obtain ⟨hits, misses, stale, fewer⟩ := counts
  obtain ⟨addedHits, addedMisses, addedStale, addedFewer⟩ :=
    counts_run state call
  refine ⟨?_, ?_, ?_, by omega⟩
  · rw [countP_concat, ← hits]
    exact addedHits
  · rw [countP_concat, ← misses]
    exact addedMisses
  · rw [countP_concat, ← stale]
    exact addedStale

theorem limits_run (state : TimedMemo κ ν) (call : MemoCall κ ν) :
    (state.run call).2.memo.answers.capacity = state.memo.answers.capacity ∧
      (state.run call).2.memo.answers.maxAge = state.memo.answers.maxAge := by
  cases call with
  | insert => exact ⟨BoundedMap.capacity_put, BoundedMap.maxAge_put⟩
  | get key generation => exact state.memo.limits_get state.now key generation
  | clear | advance => exact ⟨rfl, rfl⟩

/-- What every call keeps of a memo and its past is kept by calls one after the
other. -/
theorem runAll_keeps {motive : List (MemoEvent κ ν) → TimedMemo κ ν → Prop}
    (step :
      ∀ past state call,
        motive past state →
          motive (past ++ [state.event call]) (state.run call).2)
    (calls : List (MemoCall κ ν)) (past : List (MemoEvent κ ν))
    (start : motive past state) :
    motive (past ++ events calls state) (runAll calls state).2 := by
  induction calls generalizing past state with
  | nil =>
      rw [events, List.append_nil]
      exact start
  | cons call rest inductionHypothesis =>
      have final :=
        inductionHypothesis (past ++ [state.event call])
          (step past state call start)
      rw [List.append_assoc] at final
      exact final

/-- An answer that was inserted is given for its generation until it has reached
the maximal age, if it is what is asked for next. -/
theorem get_insert (state : TimedMemo κ ν) (key : κ) (generation : Nat)
    (value : ν) {delay : Nat} (room : state.memo.answers.capacity ≠ 0)
    (young : delay < state.memo.answers.maxAge) :
    ((state.memo.insert state.now key generation value).get (state.now + delay)
      key generation).1 =
      some value := by
  have found :
    (state.memo.answers.put state.now key (generation, value)).find? key =
      some ⟨key, (generation, value), state.now⟩ := BoundedMap.find?_put room
  have fresh :
    (⟨key, (generation, value), state.now⟩ : BoundedEntry κ (Nat × ν)).isExpired
      (state.memo.answers.put state.now key (generation, value)).maxAge
        (state.now + delay) =
        false := by
    rw [BoundedMap.maxAge_put]
    simpa [BoundedEntry.isExpired] using young
  have given := BoundedMap.get_of_live found fresh
  simp [ResolutionMemo.get, ResolutionMemo.insert, given]

/-- A memo gives only what was last inserted under the key, for the generation
that is asked for, less than the maximal age ago and not dropped since, and it
gives what was just inserted. An answer of another generation is not given and
goes. Every question counts as answered or not answered, those that find an
answer of another generation are not answered, and there are never more answers
than the memo has room for. -/
theorem accounts_for_questions (capacity maxAge start : Nat)
    (calls : List (MemoCall κ ν)) :
    let past := events calls (empty capacity maxAge start)
    let state := (runAll calls (empty capacity maxAge start)).2
    (∀ key generation value,
      (state.memo.get state.now key generation).1 = some value →
        ∃ time,
          IsRemembered past key generation value time ∧
            state.now < time + maxAge) ∧
      (∀ key generation value delay, capacity ≠ 0 → delay < maxAge →
        ((state.memo.insert state.now key generation value).get
          (state.now + delay) key
          generation).1 = some value) ∧
      (∀ key generation, state.memo.findsStale state.now key generation = true →
        (state.memo.get state.now key generation).1 = none ∧
          (state.memo.get state.now key generation).2.answers.entries =
            BoundedMap.others key state.memo.answers.entries) ∧
      state.memo.hits = past.countP isAnswered ∧
      state.memo.misses = past.countP isUnanswered ∧
      state.memo.total = (past.countP fun event => event.call.asks) ∧
      state.memo.stale = (past.countP fun event => event.stale) ∧
      state.memo.stale ≤ state.memo.misses ∧
      state.memo.size ≤ capacity := by
  intro past state
  have remembers : Remembers past state :=
    runAll_keeps (fun _ _ call kept => kept.run call) calls []
      (remembers_empty capacity maxAge start)
  have counts : Counts past state :=
    runAll_keeps (fun _ _ call kept => kept.run call) calls []
      (counts_empty capacity maxAge start)
  obtain ⟨sameCapacity, sameAge⟩ : state.memo.answers.capacity = capacity ∧
      state.memo.answers.maxAge = maxAge := by
    refine runAll_keeps
      (motive := fun _ after => after.memo.answers.capacity = capacity ∧
      after.memo.answers.maxAge = maxAge) ?_ calls [] ⟨rfl, rfl⟩
    intro _ before call kept
    obtain ⟨sameCapacity, sameAge⟩ := limits_run before call
    exact ⟨sameCapacity.trans kept.1, sameAge.trans kept.2⟩
  clear_value past state
  subst capacity maxAge
  refine ⟨fun _ _ _ given => remembers.of_given given,
    fun key generation value _ room young =>
      state.get_insert key generation value room young,
    fun _ _ stale => ⟨get_of_findsStale stale, entries_of_findsStale stale⟩,
    counts.hits, counts.misses, ?_, counts.stale, counts.staleMisses,
      remembers.bounded⟩
  rw [ResolutionMemo.total, counts.hits, counts.misses, countP_asks]

/-- The first answer was asked for under the next generation and is gone, the
second was replaced. -/
theorem accounts_for_questions_renewed :
    let calls : List (MemoCall Nat Nat) :=
      [.insert 1 7 10, .get 1 7, .get 1 8, .insert 2 8 20, .insert 2 9 30,
        .advance 5, .get 2 8,
        .insert 3 8 40]
    let past := events calls (empty 2 60 0)
    let state := (runAll calls (empty 2 60 0)).2
    (state.memo.get state.now 3 8).1 = some 40 ∧
      (∃ time, IsRemembered past 3 8 40 time ∧ state.now < time + 60) ∧
      state.memo.findsStale state.now 3 9 = true ∧
      (state.memo.get state.now 3 9).2.answers.entries = [] ∧
      ((state.memo.insert state.now 4 9 50).get (state.now + 59) 4 9).1 =
        some 50 ∧
      (state.memo.hits, state.memo.misses, state.memo.stale) = (1, 2, 2) := by
  obtain ⟨current, served, dropped, _⟩ := accounts_for_questions 2 60 0
    ([.insert 1 7 10, .get 1 7, .get 1 8, .insert 2 8 20, .insert 2 9 30,
      .advance 5, .get 2 8,
      .insert 3 8 40] : List (MemoCall Nat Nat))
  have gone := (dropped 3 9 (by decide)).2
  exact ⟨by decide, current 3 8 40 (by decide), by decide,
    gone.trans (by decide),
    served 4 9 50 59 (by decide) (by decide), by decide⟩

end TimedMemo

end CachedDirectory
