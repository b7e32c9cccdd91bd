import CachedDirectory.Proofs.RetriedCalls
import Mathlib.Data.List.Pairwise

/-!
# How long a call waits

Between two attempts a call waits for the delay that its policy has there. Every
delay but the first is cut to the maximum, and the first one is waited for as it
is. Where the factor makes up for what rounding takes from a delay, the later
delays do not shrink.
-/

namespace CachedDirectory

namespace RetryPolicy

variable {policy : RetryPolicy}

/-! ## The delays of a policy -/

theorem delay?_le_maxDelay {made delay : Nat}
    (there : policy.delay? (made + 1) = some delay) :
    delay ≤ policy.maxDelay := by
  obtain ⟨_, _, next⟩ := Option.bind_eq_some_iff.mp there
  obtain ⟨_, _, _, _, rfl⟩ := nextDelay?_eq_some_iff.mp next
  exact min_le_right _ _

/-- Once the maximum bounds a delay, it bounds all that follow. -/
theorem delay?_bounded {made later delay after : Nat} (order : made ≤ later)
    (here : policy.delay? made = some delay) (bounded : delay ≤ policy.maxDelay)
    (there : policy.delay? later = some after) : after ≤ policy.maxDelay := by
  rcases order.eq_or_lt with rfl | before
  · cases here.symm.trans there
    exact bounded
  · obtain ⟨between, rfl⟩ :=
      Nat.exists_eq_succ_of_ne_zero (Nat.ne_zero_of_lt before)
    exact delay?_le_maxDelay there

/-- Whether the factor of a policy, if it is a number, makes up for what
rounding takes from the delays up to the maximum. -/
def Grows (policy : RetryPolicy) : Prop :=
  ∀ factor, policy.factor = some factor → MakesUpFor factor policy.maxDelay

theorem MakesUpFor.of_le {factor : Rat} {delay longer : Nat}
    (makesUp : MakesUpFor factor longer) (order : delay ≤ longer) :
    MakesUpFor factor delay :=
  makesUp.imp_right fun ⟨one, short⟩ => ⟨one, order.trans_lt short⟩

/-- A delay that the maximum bounds is not longer than the next one. -/
theorem Grows.delay?_le {made delay next : Nat} (grows : policy.Grows)
    (here : policy.delay? made = some delay) (bounded : delay ≤ policy.maxDelay)
    (there : policy.delay? (made + 1) = some next) : delay ≤ next := by
  rw [delay?, here, Option.bind_some] at there
  obtain ⟨factor, scaled, known, found, rfl⟩ := nextDelay?_eq_some_iff.mp there
  exact le_min (le_of_scale? ((grows factor known).of_le bounded) found) bounded

/-- A delay that the maximum bounds is not longer than any later one. -/
theorem Grows.delay?_mono {made later delay after : Nat} (grows : policy.Grows)
    (order : made ≤ later) (here : policy.delay? made = some delay)
    (bounded : delay ≤ policy.maxDelay)
    (there : policy.delay? later = some after) :
    delay ≤ after := by
  induction order generalizing after with
  | refl =>
      cases here.symm.trans there
      exact le_rfl
  | @step later order inductionHypothesis =>
      obtain ⟨middle, between⟩ := HasDelay.of_succ ⟨after, there⟩
      exact (inductionHypothesis between).trans
        (grows.delay?_le between (delay?_bounded order here bounded between)
          there)

/-! ## The waits of a call -/

section Waits

variable {α : Type} (policy : RetryPolicy) (answers : Nat → Answer α)

/-- The delays that a call waits for within so many rounds, first one first. -/
def waits (rounds : Nat) : List Nat :=
  (policy.rehearse answers rounds).2.waits.reverse

theorem waits_logBefore (made : Nat) :
    (policy.logBefore answers made).waits.reverse =
      (List.range made).map fun earlier => (policy.delay? earlier).getD 0 := by
  induction made with
  | zero => rfl
  | succ made inductionHypothesis =>
      rw [List.range_succ, List.map_append, ← inductionHypothesis]
      exact List.reverse_cons

/-- A call waits for the first delays of its policy, which are all there. -/
theorem exists_waits (rounds : Nat) :
    ∃ count, policy.waits answers rounds =
        (List.range count).map (fun earlier => (policy.delay? earlier).getD 0) ∧
      ∀ earlier < count, policy.HasDelay earlier := by
  unfold waits
  rcases policy.rehearse_cases answers rounds with
    ⟨_, has, ran⟩ | ⟨last, _, _, has, ran⟩ | ⟨made, _, _, has, _, ran⟩
  · rw [ran]
    exact ⟨rounds, policy.waits_logBefore answers rounds,
      fun _ before => has.of_le before.le⟩
  · rw [ran]
    exact ⟨last, policy.waits_logBefore answers last,
      fun _ before => has.of_le before.le⟩
  · rw [ran]
    exact ⟨made + 1, policy.waits_logBefore answers (made + 1),
      fun _ before => has.of_le (Nat.le_of_lt_succ before)⟩

/-- A call that waits at all waits for the initial delay first, and for no more
than the maximum from then on. -/
theorem waits_cases (rounds : Nat) :
    policy.waits answers rounds = [] ∨
      ∃ later, policy.waits answers rounds = policy.initialDelay :: later ∧
        ∀ wait ∈ later, wait ≤ policy.maxDelay := by
  obtain ⟨count, same, has⟩ := policy.exists_waits answers rounds
  rw [same]
  cases count with
  | zero => exact Or.inl rfl
  | succ count =>
      right
      rw [List.range_succ_eq_map, List.map_cons, List.map_map]
      refine ⟨_, rfl, fun wait member => ?_⟩
      obtain ⟨made, within, rfl⟩ := List.mem_map.mp member
      obtain ⟨delay, there⟩ :=
        has (made + 1) (Nat.succ_lt_succ (List.mem_range.mp within))
      rw [Function.comp_apply, Nat.succ_eq_add_one, there]
      exact delay?_le_maxDelay there

theorem waits_bounded_iff (rounds : Nat) :
    (∀ wait ∈ policy.waits answers rounds, wait ≤ policy.maxDelay) ↔
      policy.waits answers rounds = [] ∨
          policy.initialDelay ≤ policy.maxDelay := by
  rcases policy.waits_cases answers rounds with none | ⟨later, some, bounded⟩
  · simp [none]
  · rw [some]
    constructor
    · exact fun all => Or.inr (all _ List.mem_cons_self)
    · rintro (empty | first) wait member
      · cases empty
      · rcases List.mem_cons.mp member with rfl | behind
        · exact first
        · exact bounded wait behind

theorem Grows.pairwise_waits {policy : RetryPolicy} (grows : policy.Grows)
    (first : policy.initialDelay ≤ policy.maxDelay) (answers : Nat → Answer α)
    (rounds : Nat) :
    (policy.waits answers rounds).Pairwise (· ≤ ·) := by
  obtain ⟨count, same, has⟩ := policy.exists_waits answers rounds
  rw [same, List.pairwise_map]
  refine List.pairwise_lt_range.imp_of_mem fun {made later} here there before =>
    ?_
  obtain ⟨delay, known⟩ := has made (List.mem_range.mp here)
  obtain ⟨after, knownAfter⟩ := has later (List.mem_range.mp there)
  have bounded := delay?_bounded made.zero_le rfl first known
  rw [known, knownAfter]
  exact grows.delay?_mono before.le known bounded knownAfter

theorem Grows.pairwise_waits_iff {policy : RetryPolicy} (grows : policy.Grows)
    (answers : Nat → Answer α) (rounds : Nat) :
    (policy.waits answers rounds).Pairwise (· ≤ ·) ↔
      (policy.waits answers rounds).length ≤ 1 ∨
          policy.initialDelay ≤ policy.maxDelay := by
  constructor
  · intro ordered
    rcases policy.waits_cases answers rounds with none | ⟨later, some, bounded⟩
    · exact Or.inl (by simp [none])
    · rw [some] at ordered ⊢
      cases later with
      | nil => exact Or.inl le_rfl
      | cons second rest =>
          have second_le := bounded second List.mem_cons_self
          exact Or.inr (((List.pairwise_cons.mp ordered).1 second
            List.mem_cons_self).trans second_le)
  · rintro (short | first)
    · match policy.waits answers rounds, short with
      | [], _ => exact List.Pairwise.nil
      | [wait], _ => exact List.pairwise_singleton _ wait
    · exact grows.pairwise_waits first answers rounds

/-- The waits of a call begin with the initial delay, and the maximum bounds
every later one. It bounds all of them exactly if there are none or it bounds
the initial delay. Where the factor makes up for what rounding takes, they never
shrink exactly if there is one at most or the maximum bounds the initial
delay. -/
theorem waits_are_capped_from_second_on (rounds : Nat) :
    (policy.waits answers rounds = [] ∨
        ∃ later, policy.waits answers rounds = policy.initialDelay :: later ∧
          ∀ wait ∈ later, wait ≤ policy.maxDelay) ∧
      ((∀ wait ∈ policy.waits answers rounds, wait ≤ policy.maxDelay) ↔
        policy.waits answers rounds = [] ∨
          policy.initialDelay ≤ policy.maxDelay) ∧
        (policy.Grows →
          ((policy.waits answers rounds).Pairwise (· ≤ ·) ↔
            (policy.waits answers rounds).length ≤ 1 ∨
              policy.initialDelay ≤ policy.maxDelay)) :=
  ⟨policy.waits_cases answers rounds, policy.waits_bounded_iff answers rounds,
    fun grows => grows.pairwise_waits_iff answers rounds⟩

/-- The policies with names wait longer and longer, up to their maximum. -/
theorem waits_of_ofName? {name : String} {policy : RetryPolicy}
    (named : ofName? name = some policy) (answers : Nat → Answer α)
    (rounds : Nat) :
    (∀ wait ∈ policy.waits answers rounds, wait ≤ policy.maxDelay) ∧
      (policy.waits answers rounds).Pairwise (· ≤ ·) := by
  have facts : policy.Grows ∧ policy.initialDelay ≤ policy.maxDelay := by
    rcases ofName?_cases named with rfl | rfl
    all_goals
      refine ⟨fun factor known => ?_, by decide⟩
      cases known
      exact Or.inl (by norm_num)
  obtain ⟨grows, first⟩ := facts
  exact ⟨(policy.waits_bounded_iff answers rounds).mpr (Or.inr first),
    grows.pairwise_waits first answers rounds⟩

end Waits

/-- Answers that may all be mended. -/
def failingAnswers : Nat → Answer Nat :=
  fun _ => .error (.accessFailure "disk")

/-- A policy that comes to its maximum with the third delay. -/
def gentlePolicy : RetryPolicy :=
  ⟨4 * millisecond, 10 * millisecond, some 2, some 5⟩

theorem waits_are_capped_from_second_on_gentle :
    gentlePolicy.Grows ∧ gentlePolicy.waits failingAnswers 5 =
        [4 * millisecond, 8 * millisecond, 10 * millisecond, 10 * millisecond] ∧
      (gentlePolicy.waits failingAnswers 5).Pairwise (· ≤ ·) ∧
        ∀ wait ∈ gentlePolicy.waits failingAnswers 5,
            wait ≤ gentlePolicy.maxDelay := by
  have grows : gentlePolicy.Grows := by
    intro factor known
    cases known
    exact Or.inl (by norm_num)
  obtain ⟨_, bounded, ordered⟩ :=
    waits_are_capped_from_second_on gentlePolicy failingAnswers 5
  exact ⟨grows, by decide +kernel, (ordered grows).mpr (Or.inr (by decide)),
    bounded.mpr (Or.inr (by decide))⟩

/-- A policy whose initial delay is longer than its maximum. -/
def hastyPolicy : RetryPolicy :=
  ⟨10 * millisecond, 5 * millisecond, some 2, some 4⟩

/-- The maximum does not bound the first wait, which is longer than the second
one. -/
theorem first_wait_exceeds_maximum :
    hastyPolicy.waits failingAnswers 4 =
      [10 * millisecond, 5 * millisecond, 5 * millisecond] ∧
      (¬ ∀ wait ∈ hastyPolicy.waits failingAnswers 4,
        wait ≤ hastyPolicy.maxDelay) ∧
        ¬ (hastyPolicy.waits failingAnswers 4).Pairwise (· ≤ ·) := by
  have waited : hastyPolicy.waits failingAnswers 4 =
      [10 * millisecond, 5 * millisecond, 5 * millisecond] := by
    decide +kernel
  rw [waited]
  exact ⟨rfl, by decide, by decide⟩

/-- A factor of one does not make up for what rounding takes from a delay of
more than 2²³ seconds: the second wait is shorter than the first by a
nanosecond. -/
theorem second_wait_loses_nanosecond :
    (⟨8388608 * second + 8, 9000000 * second, some 1, some 3⟩ :
      RetryPolicy).waits
        failingAnswers 3 = [8388608 * second + 8, 8388608 * second + 7] := by
  decide +kernel

end RetryPolicy

end CachedDirectory
