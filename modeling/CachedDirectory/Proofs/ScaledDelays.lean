import CachedDirectory.Retry
import CachedDirectory.Proofs.RoundedNumbers
import Mathlib.Tactic.NormNum

/-!
# Scaled delays

A delay is scaled in seconds with 53 binary digits. Below 2²³ seconds these keep
every nanosecond; above they may lose some, which a factor of one does not make
up for. The product is a delay again unless it is negative or too long, so a
policy that is moderate never lacks a delay.
-/

namespace CachedDirectory

namespace RetryPolicy

open Number

/-! ## Seconds -/

section Seconds

variable {delay : Nat}

theorem second_cast : ((second : Nat) : Rat) = 1000000000 := by
  norm_num [second]

/-- A delay is the whole seconds and the nanoseconds in it. -/
theorem delay_eq (delay : Nat) :
    (delay : Rat) / 1000000000 =
      ((delay / second : Nat) : Rat) +
          ((delay % second : Nat) : Rat) / 1000000000 := by
  have split :
      ((second * (delay / second) + delay % second : Nat) : Rat) = delay :=
    congrArg _ (Nat.div_add_mod delay second)
  push_cast [second_cast] at split
  linarith

/-- The part of a delay below a second, with 53 binary digits. -/
def fraction (delay : Nat) : Rat :=
  binary64 (((delay % second : Nat) : Rat) / 1000000000)

theorem seconds_eq (delay : Nat) :
    seconds delay =
        binary64 (binary64 (delay / second : Nat) + fraction delay) := by
  have small : delay % second ≤ 2 ^ 53 :=
    (Nat.mod_lt delay (by decide)).le.trans (by decide)
  rw [seconds, fraction, second_cast, binary64_natCast small]

theorem fraction_bounds (delay : Nat) :
    ((delay % second : Nat) : Rat) / 1000000000 - 1 / 2 ^ 54 ≤ fraction delay ∧
      0 ≤ fraction delay ∧ fraction delay ≤ 1 := by
  have nonneg : (0 : Rat) ≤ ((delay % second : Nat) : Rat) / 1000000000 := by
    positivity
  have belowSecond : ((delay % second : Nat) : Rat) < 1000000000 := by
    rw [← second_cast]
    exact_mod_cast Nat.mod_lt delay (by decide : 0 < second)
  have upper : ((delay % second : Nat) : Rat) / 1000000000 ≤ 2 ^ (0 : Int) := by
    rw [zpow_zero, div_le_one (by norm_num)]
    exact belowSecond.le
  refine ⟨?_, binary64_nonneg _, ?_⟩
  · have lower := sub_le_binary64 nonneg upper (by decide)
    have loss : (2 : Rat) ^ ((0 : Int) - 53) / 2 = 1 / 2 ^ 54 := by norm_num
    rwa [loss] at lower
  · have one :=
      (BinaryFormat.has_two_zpow (by decide)).round_le double_wide upper
    rwa [zpow_zero] at one

/-- Below 2²³ seconds less than half a nanosecond is lost. -/
theorem sub_half_lt_seconds (short : delay < 2 ^ 23 * second) :
    (delay : Rat) - 1 / 2 < seconds delay * 1000000000 := by
  have whole : delay / second < 2 ^ 23 :=
    Nat.div_lt_of_lt_mul (by rwa [Nat.mul_comm])
  obtain ⟨lower, nonneg, upper⟩ := fraction_bounds delay
  have wholeUpper : ((delay / second : Nat) : Rat) + 1 ≤ 2 ^ (23 : Int) := by
    have cast : ((delay / second + 1 : Nat) : Rat) ≤ ((2 ^ 23 : Nat) : Rat) :=
      Nat.cast_le.mpr whole
    push_cast at cast
    norm_num
    linarith
  have sumNonneg : 0 ≤ ((delay / second : Nat) : Rat) + fraction delay :=
    add_nonneg (Nat.cast_nonneg _) nonneg
  have sumUpper :
      ((delay / second : Nat) : Rat) + fraction delay ≤ 2 ^ (23 : Int) := by
    linarith
  have rounded := sub_le_binary64 sumNonneg sumUpper (by decide)
  have loss : (2 : Rat) ^ ((23 : Int) - 53) / 2 = 1 / 2 ^ 31 := by norm_num
  rw [loss] at rounded
  have exact := delay_eq delay
  rw [seconds_eq, binary64_natCast (whole.le.trans (by decide))]
  have seconds : (delay : Rat) / 1000000000 - 1 / 2 ^ 54 - 1 / 2 ^ 31 ≤
      binary64 (((delay / second : Nat) : Rat) + fraction delay) := by
    rw [exact]
    exact le_trans (by linarith) rounded
  norm_num at seconds ⊢
  linarith

/-- From 2²³ seconds on, little more than two parts of 2⁵³ are lost. -/
theorem mul_le_seconds (long : 2 ^ 23 * second ≤ delay) :
    (delay : Rat) / 1000000000 * (1 - 1 / 2 ^ 53 - 1 / 2 ^ 77) *
      (1 - 1 / 2 ^ 53) ≤
      seconds delay := by
  have whole : 2 ^ 23 ≤ delay / second :=
    (Nat.le_div_iff_mul_le (by decide)).mpr long
  have wholeLower : (8388608 : Rat) ≤ ((delay / second : Nat) : Rat) := by
    exact_mod_cast whole
  obtain ⟨lower, _, _⟩ := fraction_bounds delay
  have exact := delay_eq delay
  have fractional :
      (0 : Rat) ≤ ((delay % second : Nat) : Rat) / 1000000000 := by
    positivity
  have wholeLarge : (1 : Rat) ≤ ((delay / second : Nat) : Rat) := by linarith
  have rounded := mul_le_binary64 wholeLarge
  have sum : (delay : Rat) / 1000000000 * (1 - 1 / 2 ^ 53 - 1 / 2 ^ 77) ≤
      binary64 ((delay / second : Nat) : Rat) + fraction delay := by
    rw [exact]
    norm_num at rounded lower ⊢
    linarith
  have large :
      (1 : Rat) ≤ binary64 ((delay / second : Nat) : Rat) + fraction delay := by
    refine le_trans ?_ sum
    rw [exact]
    norm_num
    linarith
  rw [seconds_eq]
  exact le_trans (mul_le_mul_of_nonneg_right sum (by norm_num))
    (mul_le_binary64 large)

end Seconds

/-! ## Scaled delays -/

/-- A factor makes up for what rounding takes from a delay: it is above one by
more than rounding takes from any delay, or it is one at least and the delay so
short that nothing is taken. -/
def MakesUpFor (factor : Rat) (delay : Nat) : Prop :=
  1 + 1 / 2 ^ 51 ≤ factor ∨ 1 ≤ factor ∧ delay < 2 ^ 23 * second

theorem le_of_scale? {factor : Rat} {delay scaled : Nat}
    (makesUp : MakesUpFor factor delay)
    (found : scale? factor delay = some scaled) : delay ≤ scaled := by
  have one : 1 ≤ factor := by
    rcases makesUp with above | ⟨above, _⟩
    · exact le_trans (by norm_num) above
    · exact above
  have secondsNonneg : 0 ≤ seconds delay := binary64_nonneg _
  suffices close : (delay : Rat) - 1 / 2 <
      binary64 (binary64 factor * seconds delay) * 1000000000 by
    unfold scale? at found
    rw [Rat.abs_of_nonneg (zero_le_one.trans one)] at found
    dsimp only at found
    split_ifs at found with excluded
    cases found
    rw [second_cast]
    have nearby :
      (delay : Int) ≤ nearest (binary64 (binary64 factor * seconds delay) *
        1000000000) := le_nearest (by exact_mod_cast close)
    omega
  rcases lt_or_ge delay (2 ^ 23 * second) with short | long
  · have has : BinaryFormat.double.Has 1 :=
      ⟨1, 0, by decide, by decide, by norm_num⟩
    have grown : seconds delay ≤ binary64 (binary64 factor * seconds delay) :=
      le_binary64 (has_binary64 _)
        (le_mul_of_one_le_left secondsNonneg (le_binary64 has one))
    have near := sub_half_lt_seconds short
    linarith
  · have above : 1 + 1 / 2 ^ 51 ≤ factor := makesUp.resolve_right fun other =>
      absurd other.2 (not_lt.mpr long)
    have has : BinaryFormat.double.Has (1 + 1 / 2 ^ 51) :=
      ⟨2 ^ 51 + 1, -51, by decide, by decide, by norm_num⟩
    have kept : 1 + 1 / 2 ^ 51 ≤ binary64 factor := le_binary64 has above
    have lower := mul_le_seconds long
    have long' : (2 ^ 23 : Rat) ≤ (delay : Rat) / 1000000000 := by
      rw [le_div_iff₀ (by norm_num), ← second_cast]
      exact_mod_cast long
    have product : (1 + 1 / 2 ^ 51) * ((delay : Rat) / 1000000000 *
        (1 - 1 / 2 ^ 53 - 1 / 2 ^ 77) * (1 - 1 / 2 ^ 53)) ≤
            binary64 factor * seconds delay :=
      mul_le_mul kept lower (by norm_num; positivity)
        (le_trans (by norm_num) kept)
    have large : 1 ≤ binary64 factor * seconds delay := by
      refine le_trans ?_ product
      norm_num at long' ⊢
      linarith
    have rounded := mul_le_binary64 large
    norm_num at product rounded ⊢
    linarith

/-- A product that is far from too long is a delay. -/
theorem exists_scale? {factor : Rat} {delay : Nat} (nonneg : 0 ≤ factor)
    (moderate : factor * delay ≤ 2 ^ 59 * second) :
    ∃ scaled, scale? factor delay = some scaled := by
  have wholeNonneg : (0 : Rat) ≤ ((delay / second : Nat) : Rat) :=
    Nat.cast_nonneg _
  have partNonneg :
      (0 : Rat) ≤ ((delay % second : Nat) : Rat) / 1000000000 := by
    positivity
  have fractionUpper :
      fraction delay ≤ 2 * (((delay % second : Nat) : Rat) / 1000000000) :=
    binary64_le_two_mul partNonneg
  have secondsUpper : seconds delay ≤ 4 * ((delay : Rat) / 1000000000) := by
    have exact := delay_eq delay
    have whole := binary64_le_two_mul wholeNonneg
    have sumNonneg :
        0 ≤ binary64 ((delay / second : Nat) : Rat) + fraction delay :=
      add_nonneg (binary64_nonneg _) (binary64_nonneg _)
    have sum := binary64_le_two_mul sumNonneg
    rw [seconds_eq]
    linarith
  have secondsNonneg : 0 ≤ seconds delay := binary64_nonneg _
  have product : binary64 (binary64 factor * seconds delay) ≤
      16 * (factor * ((delay : Rat) / 1000000000)) := by
    refine (binary64_le_two_mul
      (mul_nonneg (binary64_nonneg _) secondsNonneg)).trans ?_
    have both :=
      mul_le_mul (binary64_le_two_mul nonneg) secondsUpper secondsNonneg
      (mul_nonneg two_pos.le nonneg)
    linarith
  have within : ¬excessive ≤ binary64 (binary64 factor * seconds delay) := by
    rw [second_cast] at moderate
    rw [excessive, not_le]
    refine product.trans_lt ?_
    rw [← mul_div_assoc, ← mul_div_assoc, div_lt_iff₀ (by norm_num)]
    norm_num at moderate ⊢
    linarith
  unfold scale?
  rw [Rat.abs_of_nonneg nonneg]
  dsimp only
  rw [if_neg (not_or.mpr
    ⟨fun negative => absurd negative.1 (not_lt.mpr nonneg), within⟩)]
  exact ⟨_, rfl⟩

/-! ## The delays of a policy -/

variable {policy : RetryPolicy} {made delay : Nat}

/-- The delay after the attempt that follows that many others, if there is
one. -/
def delay? (policy : RetryPolicy) : Nat → Option Nat
  | 0 => some policy.initialDelay
  | made + 1 => (policy.delay? made).bind policy.nextDelay?

/-- Whether there is a delay in front of every attempt that follows that many
others at most. -/
def HasDelay (policy : RetryPolicy) (made : Nat) : Prop :=
  ∃ delay, policy.delay? made = some delay

theorem HasDelay.of_succ (has : policy.HasDelay (made + 1)) :
    policy.HasDelay made := by
  obtain ⟨next, there⟩ := has
  obtain ⟨delay, here, _⟩ := Option.bind_eq_some_iff.mp there
  exact ⟨delay, here⟩

theorem HasDelay.of_le {other : Nat} (has : policy.HasDelay made)
    (least : other ≤ made) :
    policy.HasDelay other := by
  induction least with
  | refl => exact has
  | step _ inductionHypothesis => exact inductionHypothesis has.of_succ

theorem nextDelay?_eq_some_iff {next : Nat} :
    policy.nextDelay? delay = some next ↔
      ∃ factor scaled,
        policy.factor = some factor ∧ scale? factor delay = some scaled ∧
        next = min scaled policy.maxDelay := by
  simp only [nextDelay?, Option.bind_eq_bind, Option.bind_eq_some_iff,
    Option.pure_def, Option.some_inj]
  constructor
  · rintro ⟨factor, known, scaled, found, rfl⟩
    exact ⟨factor, scaled, known, found, rfl⟩
  · rintro ⟨factor, scaled, known, found, rfl⟩
    exact ⟨factor, known, scaled, found, rfl⟩

/-- Whether the factor of a policy is not negative and takes its delays nowhere
near the longest one. -/
def IsModerate (policy : RetryPolicy) : Prop :=
  ∃ factor, policy.factor = some factor ∧ 0 ≤ factor ∧
    factor * (max policy.initialDelay policy.maxDelay : Nat) ≤ 2 ^ 59 * second

theorem IsModerate.exists_delay (moderate : policy.IsModerate) (made : Nat) :
    ∃ delay, policy.delay? made = some delay ∧
      delay ≤ max policy.initialDelay policy.maxDelay := by
  obtain ⟨factor, known, nonneg, bounded⟩ := moderate
  induction made with
  | zero => exact ⟨policy.initialDelay, rfl, le_max_left _ _⟩
  | succ made inductionHypothesis =>
      obtain ⟨delay, here, upper⟩ := inductionHypothesis
      have cast :
          (delay : Rat) ≤ (max policy.initialDelay policy.maxDelay : Nat) :=
        Nat.cast_le.mpr upper
      obtain ⟨scaled, found⟩ := exists_scale? nonneg
        ((mul_le_mul_of_nonneg_left cast nonneg).trans bounded)
      refine ⟨min scaled policy.maxDelay, ?_,
        (min_le_right _ _).trans (le_max_right _ _)⟩
      rw [delay?, here, Option.bind_some]
      exact nextDelay?_eq_some_iff.mpr ⟨factor, scaled, known, found, rfl⟩

theorem IsModerate.hasDelay (moderate : policy.IsModerate) (made : Nat) :
    policy.HasDelay made := by
  obtain ⟨delay, here, _⟩ := moderate.exists_delay made
  exact ⟨delay, here⟩

end RetryPolicy

end CachedDirectory
