import CachedDirectory.Number.Rounding
import Mathlib.Data.Rat.Floor
import Mathlib.Tactic.FieldSimp
import Mathlib.Tactic.Linarith
import Mathlib.Tactic.Positivity
import Mathlib.Tactic.Ring

/-!
# How far rounding goes

The nearest whole number is at most one half away. A binary format rounds to
multiples of a unit, the last digit that a number keeps, and so it never passes
a number that it has itself: what is at least such a number stays at least that
when it is rounded, and what is at most such a number stays at most that. From
the size of the unit come bounds of the error, absolute and relative.
-/

namespace CachedDirectory.Number

/-! ## Whole numbers -/

theorem abs_nearest_sub_le (value : Rat) :
    |(nearest value : Rat) - value| ≤ 1 / 2 := by
  have below := Rat.floor_le value
  have above := Rat.lt_floor_add_one value
  push_cast at above
  unfold nearest
  dsimp only
  rw [abs_le]
  split_ifs <;> push_cast <;> constructor <;> linarith

theorem le_nearest {count : Int} {value : Rat}
    (close : (count : Rat) - 1 / 2 < value) :
    count ≤ nearest value := by
  have near := (abs_le.mp (abs_nearest_sub_le value)).1
  have less : ((count - 1 : Int) : Rat) < nearest value := by
    push_cast
    linarith
  have lessInt : count - 1 < nearest value := Int.cast_lt.mp less
  omega

theorem nearest_le {count : Int} {value : Rat}
    (close : value < (count : Rat) + 1 / 2) :
    nearest value ≤ count := by
  have near := (abs_le.mp (abs_nearest_sub_le value)).2
  have less : (nearest value : Rat) < ((count + 1 : Int) : Rat) := by
    push_cast
    linarith
  have lessInt : nearest value < count + 1 := Int.cast_lt.mp less
  omega

theorem nearest_le_two_mul {value : Rat} (nonneg : 0 ≤ value) :
    (nearest value : Rat) ≤ 2 * value := by
  rcases lt_or_ge value (1 / 2) with small | large
  · have zero : nearest value ≤ 0 := nearest_le (by push_cast; linarith)
    have cast : (nearest value : Rat) ≤ 0 := by exact_mod_cast zero
    linarith
  · have near := (abs_le.mp (abs_nearest_sub_le value)).2
    linarith

/-! ## Units -/

theorem powerOfTwo_eq (exponent : Int) :
    powerOfTwo exponent = (2 : Rat) ^ exponent := by
  unfold powerOfTwo
  split
  case isTrue nonneg => rw [← zpow_natCast, Int.toNat_of_nonneg nonneg]
  case isFalse negative =>
    rw [← zpow_natCast, Int.toNat_of_nonneg (by omega), zpow_neg,
      one_div, inv_inv]

theorem two_zpow_pos (exponent : Int) : (0 : Rat) < 2 ^ exponent :=
  zpow_pos two_pos exponent

theorem two_zpow_le {lower upper : Int} (order : lower ≤ upper) :
    (2 : Rat) ^ lower ≤ 2 ^ upper :=
  zpow_le_zpow_right₀ one_le_two order

/-- A positive number lies between the powers of two that the lengths of its
numerator and its denominator suggest. -/
theorem log2_bounds {value : Rat} (pos : 0 < value) :
    (2 :
      Rat) ^ ((Nat.log2 value.num.natAbs : Int) - Nat.log2 value.den -
        1) < value ∧
      value < (2 : Rat) ^
          ((Nat.log2 value.num.natAbs : Int) - Nat.log2 value.den + 1) := by
  have numPos : 0 < value.num := Rat.num_pos.mpr pos
  have size : ((value.num.natAbs : Nat) : Rat) = value.num := by
    rw [← Int.cast_natCast, Int.natAbs_of_nonneg numPos.le]
  have quotient : value = (value.num.natAbs : Rat) / value.den := by
    rw [size, Rat.num_div_den]
  have numLower : (2 : Rat) ^ Nat.log2 value.num.natAbs ≤ value.num.natAbs := by
    exact_mod_cast Nat.log2_self_le (Int.natAbs_ne_zero.mpr numPos.ne')
  have numUpper :
      (value.num.natAbs : Rat) < 2 ^ (Nat.log2 value.num.natAbs + 1) := by
    exact_mod_cast Nat.lt_log2_self
  have denLower : (2 : Rat) ^ Nat.log2 value.den ≤ value.den := by
    exact_mod_cast Nat.log2_self_le value.den_nz
  have denUpper : (value.den : Rat) < 2 ^ (Nat.log2 value.den + 1) := by
    exact_mod_cast Nat.lt_log2_self
  have denPos : (0 : Rat) < value.den := by exact_mod_cast value.den_pos
  generalize Nat.log2 value.num.natAbs = upper at numLower numUpper ⊢
  generalize Nat.log2 value.den = lower at denLower denUpper ⊢
  constructor
  · have exponent :
        (upper : Int) - lower - 1 =
            (upper : Int) - ((lower + 1 : Nat) : Int) := by
      push_cast
      ring
    rw [exponent, zpow_sub₀ two_ne_zero, zpow_natCast, zpow_natCast, quotient,
      div_lt_div_iff₀ (by positivity) denPos]
    exact mul_lt_mul' numLower denUpper denPos.le
      (lt_of_lt_of_le (by positivity) numLower)
  · have exponent :
        (upper : Int) - lower + 1 =
            ((upper + 1 : Nat) : Int) - (lower : Int) := by
      push_cast
      ring
    rw [exponent, zpow_sub₀ two_ne_zero, zpow_natCast, zpow_natCast, quotient,
      div_lt_div_iff₀ denPos (by positivity)]
    exact mul_lt_mul numUpper denLower (by positivity) (by positivity)

namespace BinaryFormat

variable {format : BinaryFormat} {value bound : Rat}

/-- The last digit is the one that leaves as many digits as the format has,
unless that is below the least one. -/
theorem exists_lastDigit (wide : 0 < format.digits) (pos : 0 < value) :
    ∃ exponent : Int, format.lastDigit value = max exponent format.least ∧
      (2 : Rat) ^ (exponent + format.digits - 1) ≤ value ∧
        value < 2 ^ (exponent + format.digits) := by
  obtain ⟨lower, upper⟩ := log2_bounds pos
  have cast : ((format.digits - 1 : Nat) : Int) = format.digits - 1 := by omega
  have scaled (exponent : Int) (count : Nat) :
      value / 2 ^ exponent < (2 : Rat) ^ count ↔
          value < 2 ^ (exponent + count) := by
    rw [div_lt_iff₀ (two_zpow_pos exponent), ←
      zpow_natCast, ← zpow_add₀ two_ne_zero, add_comm]
  unfold lastDigit
  dsimp only
  rw [powerOfTwo_eq, cast]
  generalize (Nat.log2 value.num.natAbs : Int) - Nat.log2 value.den =
    length at lower upper ⊢
  refine ⟨_, rfl, ?_⟩
  split_ifs with small large
  · rw [scaled, cast] at small
    constructor
    · refine le_of_eq_of_le (congrArg _ ?_) lower.le
      ring
    · refine lt_of_lt_of_eq small (congrArg _ ?_)
      ring
  · rw [← not_lt, scaled] at large
    refine absurd (lt_of_lt_of_eq upper (congrArg _ ?_)) large
    ring
  · rw [scaled, cast] at small
    constructor
    · refine le_of_eq_of_le (congrArg _ ?_) (not_lt.mp small)
      ring
    · refine lt_of_lt_of_eq upper (congrArg _ ?_)
      ring

/-- The smallest part of a number that rounding leaves. -/
def unit (format : BinaryFormat) (value : Rat) : Rat :=
  2 ^ format.lastDigit value

theorem unit_pos : 0 < format.unit value :=
  two_zpow_pos _

theorem least_le_lastDigit : format.least ≤ format.lastDigit value :=
  le_max_right _ _

theorem lt_units (wide : 0 < format.digits) (pos : 0 < value) :
    value < 2 ^ format.digits * format.unit value := by
  obtain ⟨exponent, last, _, upper⟩ := exists_lastDigit wide pos
  rw [unit, ← zpow_natCast, ← zpow_add₀ two_ne_zero, last]
  refine upper.trans_le (two_zpow_le ?_)
  have grows := le_max_left exponent format.least
  omega

theorem units_le (wide : 0 < format.digits) (pos : 0 < value)
    (above : format.least < format.lastDigit value) :
    2 ^ (format.digits - 1) * format.unit value ≤ value := by
  obtain ⟨exponent, last, lower, _⟩ := exists_lastDigit wide pos
  have here : format.lastDigit value = exponent := by omega
  rw [unit, ← zpow_natCast, ← zpow_add₀ two_ne_zero, here]
  refine le_of_eq_of_le (congrArg _ ?_) lower
  omega

theorem round_of_nonpos (nonpos : value ≤ 0) : format.round value = 0 :=
  if_pos nonpos

theorem round_of_pos (pos : 0 < value) :
    format.round value =
        nearest (value / format.unit value) * format.unit value := by
  rw [round, if_neg (not_le.mpr pos), powerOfTwo_eq]
  rfl

/-! ## The numbers of a format -/

/-- Whether a format has a number: a count of some digit that is not below the
least one. -/
def Has (format : BinaryFormat) (value : Rat) : Prop :=
  ∃ (count : Nat) (digit : Int),
    count ≤ 2 ^ format.digits ∧ format.least ≤ digit ∧ value = count * 2 ^ digit

theorem Has.nonneg (has : format.Has value) : 0 ≤ value := by
  obtain ⟨count, digit, _, _, rfl⟩ := has
  exact mul_nonneg (Nat.cast_nonneg count) (two_zpow_pos digit).le

theorem has_natCast {count : Nat} (fits : count ≤ 2 ^ format.digits)
    (least : format.least ≤ 0) :
    format.Has count :=
  ⟨count, 0, fits, least, by rw [zpow_zero, mul_one]⟩

theorem has_two_zpow {exponent : Int} (least : format.least ≤ exponent) :
    format.Has (2 ^ exponent) :=
  ⟨1, exponent, Nat.one_le_two_pow, least, by rw [Nat.cast_one, one_mul]⟩

theorem has_round (wide : 0 < format.digits) (value : Rat) :
    format.Has (format.round value) := by
  rcases le_or_gt value 0 with nonpos | pos
  · rw [round_of_nonpos nonpos]
    exact ⟨0, format.least, Nat.zero_le _,
      le_rfl, by rw [Nat.cast_zero, zero_mul]⟩
  · have unitPos : 0 < format.unit value := unit_pos
    have nonneg : 0 ≤ nearest (value / format.unit value) := by
      refine le_nearest ?_
      have divided := div_pos pos unitPos
      push_cast
      linarith
    have fits :
        nearest (value / format.unit value) ≤
            ((2 ^ format.digits : Nat) : Int) := by
      refine nearest_le ?_
      have divided := (div_lt_iff₀ unitPos).mpr (lt_units wide pos)
      push_cast
      linarith
    obtain ⟨count, counted⟩ := Int.eq_ofNat_of_zero_le nonneg
    rw [counted] at fits
    refine ⟨count, format.lastDigit value, by exact_mod_cast fits,
      least_le_lastDigit, ?_⟩
    rw [round_of_pos pos, counted, unit, Int.cast_natCast]

/-- A number of the format is a multiple of the unit of another number, or so
small that both are on different sides of a multiple. -/
theorem Has.multiple_or_le (wide : 0 < format.digits) (has : format.Has bound)
    (pos : 0 < value) :
    (∃ count : Int, bound = count * format.unit value) ∨
      bound ≤ ((2 ^ (format.digits - 1) : Nat) : Int) * format.unit value ∧
        ((2 ^ (format.digits - 1) : Nat) : Int) * format.unit value ≤
            value := by
  obtain ⟨count, digit, fits, least, rfl⟩ := has
  rcases le_or_gt (format.lastDigit value) digit with order | order
  · left
    refine ⟨count * 2 ^ (digit - format.lastDigit value).toNat, ?_⟩
    push_cast
    rw [unit, mul_assoc, ←
      zpow_natCast, Int.toNat_of_nonneg (by omega), ←
        zpow_add₀ two_ne_zero, sub_add_cancel]
  · right
    have lower := units_le wide pos (least.trans_lt order)
    have counted : (count : Rat) ≤ 2 ^ format.digits := by exact_mod_cast fits
    refine ⟨?_, by exact_mod_cast lower⟩
    calc (count : Rat) * 2 ^ digit
        ≤ 2 ^ format.digits * 2 ^ digit :=
          mul_le_mul_of_nonneg_right counted (two_zpow_pos digit).le
      _ = 2 ^ ((format.digits : Int) + digit) := by
        rw [← zpow_natCast, ← zpow_add₀ two_ne_zero]
      _ ≤ 2 ^ (((format.digits - 1 : Nat) : Int) + format.lastDigit value) :=
          two_zpow_le (by omega)
      _ = ((2 ^ (format.digits - 1) : Nat) : Int) * format.unit value := by
          rw [zpow_add₀ two_ne_zero, zpow_natCast, unit]
          push_cast
          rfl

/-- What is at least a number of the format is rounded to at least that. -/
theorem Has.le_round (wide : 0 < format.digits) (has : format.Has bound)
    (order : bound ≤ value) :
    bound ≤ format.round value := by
  rcases le_or_gt value 0 with nonpos | pos
  · rw [round_of_nonpos nonpos]
    exact order.trans nonpos
  · have unitPos : 0 < format.unit value := unit_pos
    have between : ∃ count : Int, bound ≤ count * format.unit value ∧
        count * format.unit value ≤ value := by
      rcases has.multiple_or_le wide pos with ⟨count, same⟩ | apart
      · exact ⟨count, same.le, same ▸ order⟩
      · exact ⟨_, apart⟩
    obtain ⟨count, lower, upper⟩ := between
    have whole : count ≤ nearest (value / format.unit value) := by
      refine le_nearest ?_
      have divided := (le_div_iff₀ unitPos).mpr upper
      linarith
    rw [round_of_pos pos]
    exact lower.trans
      (mul_le_mul_of_nonneg_right (Int.cast_le.mpr whole) unitPos.le)

/-- What is at most a number of the format is rounded to at most that. -/
theorem Has.round_le (wide : 0 < format.digits) (has : format.Has bound)
    (order : value ≤ bound) :
    format.round value ≤ bound := by
  rcases le_or_gt value 0 with nonpos | pos
  · rw [round_of_nonpos nonpos]
    exact has.nonneg
  · have unitPos : 0 < format.unit value := unit_pos
    have between : ∃ count : Int, value ≤ count * format.unit value ∧
        count * format.unit value ≤ bound := by
      rcases has.multiple_or_le wide pos with ⟨count, same⟩ | ⟨lower, upper⟩
      · exact ⟨count, same ▸ order, same.ge⟩
      · exact ⟨_, order.trans lower, upper.trans order⟩
    obtain ⟨count, lower, upper⟩ := between
    have whole : nearest (value / format.unit value) ≤ count := by
      refine nearest_le ?_
      have divided := (div_le_iff₀ unitPos).mpr lower
      linarith
    rw [round_of_pos pos]
    exact (mul_le_mul_of_nonneg_right (Int.cast_le.mpr whole) unitPos.le).trans
      upper

theorem Has.round_eq (wide : 0 < format.digits) (has : format.Has value) :
    format.round value = value :=
  le_antisymm (has.round_le wide le_rfl) (has.le_round wide le_rfl)

/-! ## Errors -/

theorem sub_le_round (format : BinaryFormat) (pos : 0 < value) :
    value - format.unit value / 2 ≤ format.round value := by
  have unitPos : 0 < format.unit value := unit_pos
  have near := (abs_le.mp (abs_nearest_sub_le (value / format.unit value))).1
  have scaled := mul_le_mul_of_nonneg_right near unitPos.le
  rw [sub_mul, div_mul_cancel₀ _ unitPos.ne', ← round_of_pos pos] at scaled
  linarith

/-- Below a power of two, rounding loses at most half a unit of that power. -/
theorem sub_le_round_of_le (wide : 0 < format.digits) (nonneg : 0 ≤ value)
    {exponent : Int} (upper : value ≤ 2 ^ exponent)
    (least : format.least ≤ exponent - format.digits) :
    value - 2 ^ (exponent - format.digits) / 2 ≤ format.round value := by
  have lossPos := two_zpow_pos (exponent - format.digits)
  rcases nonneg.eq_or_lt with rfl | pos
  · rw [round_of_nonpos le_rfl]
    linarith
  rcases upper.eq_or_lt with rfl | below
  · rw [(has_two_zpow (by omega)).round_eq wide]
    linarith
  · have digit : format.lastDigit value ≤ exponent - format.digits := by
      by_contra larger
      have lower := units_le wide pos (by omega)
      rw [unit, ← zpow_natCast, ← zpow_add₀ two_ne_zero] at lower
      have less :
        (2 : Rat) ^ exponent ≤ 2 ^ (((format.digits - 1 : Nat) : Int) +
          format.lastDigit value) := two_zpow_le (by omega)
      linarith
    have small : format.unit value ≤ 2 ^ (exponent - format.digits) :=
      two_zpow_le digit
    have error := sub_le_round format pos
    linarith

/-- Rounding loses at most one part of as many as the digits can count, unless
the number is close to the least digit. -/
theorem mul_le_round (wide : 0 < format.digits)
    (normal : (2 : Rat) ^ (format.least + format.digits - 1) ≤ value) :
    value * (1 - 1 / 2 ^ format.digits) ≤ format.round value := by
  have pos : 0 < value := (two_zpow_pos _).trans_le normal
  have units : 2 ^ (format.digits - 1) * format.unit value ≤ value := by
    rcases least_le_lastDigit.eq_or_lt with here | above
    · rw [unit, ← here, ← zpow_natCast, ← zpow_add₀ two_ne_zero]
      refine le_of_eq_of_le (congrArg _ ?_) normal
      omega
    · exact units_le wide pos above
  have digits : (2 : Rat) ^ format.digits = 2 ^ (format.digits - 1) * 2 := by
    rw [← pow_succ, Nat.sub_add_cancel wide]
  have powPos : (0 : Rat) < 2 ^ (format.digits - 1) := by positivity
  have part : format.unit value / 2 ≤ value / 2 ^ format.digits := by
    rw [digits, le_div_iff₀ (by positivity)]
    linarith
  have error := sub_le_round format pos
  have expanded :
      value * (1 - 1 / 2 ^ format.digits) =
          value - value / 2 ^ format.digits := by
    ring
  linarith

theorem round_le_two_mul (nonneg : 0 ≤ value) :
    format.round value ≤ 2 * value := by
  rcases nonneg.eq_or_lt with rfl | pos
  · rw [round_of_nonpos le_rfl, mul_zero]
  · have unitPos : 0 < format.unit value := unit_pos
    have scaled := mul_le_mul_of_nonneg_right
      (nearest_le_two_mul (div_pos pos unitPos).le) unitPos.le
    rwa [← round_of_pos pos, mul_assoc, div_mul_cancel₀ _ unitPos.ne'] at scaled

end BinaryFormat

/-! ## The numbers of 64 bits -/

section Double

open BinaryFormat

variable {value bound : Rat}

theorem double_wide : 0 < double.digits := by decide

theorem has_binary64 (value : Rat) : double.Has (binary64 value) :=
  has_round double_wide value

theorem binary64_nonneg (value : Rat) : 0 ≤ binary64 value :=
  (has_binary64 value).nonneg

theorem le_binary64 (has : double.Has bound) (order : bound ≤ value) :
    bound ≤ binary64 value :=
  has.le_round double_wide order

/-- Whole numbers of up to 53 binary digits are not rounded. -/
theorem binary64_natCast {count : Nat} (fits : count ≤ 2 ^ 53) :
    binary64 count = count :=
  (has_natCast fits (by decide)).round_eq double_wide

/-- Half a unit at most is lost below a power of two. -/
theorem sub_le_binary64 (nonneg : 0 ≤ value) {exponent : Int}
    (upper : value ≤ 2 ^ exponent) (least : -1021 ≤ exponent) :
    value - 2 ^ (exponent - 53) / 2 ≤ binary64 value :=
  sub_le_round_of_le double_wide nonneg upper (by simp only [double]; omega)

theorem mul_le_binary64 (large : 1 ≤ value) :
    value * (1 - 1 / 2 ^ 53) ≤ binary64 value := by
  have least : (2 : Rat) ^ (double.least + double.digits - 1) ≤ 2 ^ (0 : Int) :=
    two_zpow_le (by decide)
  rw [zpow_zero] at least
  exact mul_le_round double_wide (least.trans large)

theorem binary64_le_two_mul (nonneg : 0 ≤ value) : binary64 value ≤ 2 * value :=
  round_le_two_mul nonneg

end Double

end CachedDirectory.Number
