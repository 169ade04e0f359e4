import PoolArbiter.Decimal.Basic
import PoolArbiter.Proofs.Printing.Floats

/-!
# Rounding depends on the value only

A decimal is read as the float that its value is rounded to. The value may be given by many
mantissas, exponents and remainders; `IsRounded.unique` says that all of them are rounded alike,
so two decimals of one value are read as the same float.
-/

namespace PoolArbiter

open Float.Model (Format UnpackedFloat totalExponent)
open Float.Model.UnpackedFloat

namespace Unpacking

section Remainders

/-- What a mantissa and the two bits after it tell about a value. -/
def Represents : ExtendedMantissa → ℚ → Prop
  | ⟨mantissa, false, false⟩, value => value = mantissa
  | ⟨mantissa, false, true⟩, value => mantissa < value ∧ value < mantissa + 1 / 2
  | ⟨mantissa, true, false⟩, value => value = mantissa + 1 / 2
  | ⟨mantissa, true, true⟩, value => mantissa + 1 / 2 < value ∧ value < mantissa + 1

/-- A value lies between its mantissa and the next one. -/
theorem Represents.bounds {extended : ExtendedMantissa} {value : ℚ}
    (represents : Represents extended value) :
    (extended.mantissa : ℚ) ≤ value ∧ value < extended.mantissa + 1 := by
  obtain ⟨mantissa, half, more⟩ := extended
  cases half <;> cases more <;> simp only [Represents] at represents ⊢ <;>
    constructor <;> linarith

/-- A value has one mantissa and one pair of bits. -/
theorem Represents.unique {first second : ExtendedMantissa} {value : ℚ}
    (firstRepresents : Represents first value) (secondRepresents : Represents second value) :
    first = second := by
  have firstBounds := firstRepresents.bounds
  have secondBounds := secondRepresents.bounds
  obtain ⟨mantissa, half, more⟩ := first
  obtain ⟨other, otherHalf, otherMore⟩ := second
  have same : mantissa = other := by
    have below : (mantissa : ℚ) < other + 1 := by linarith [firstBounds.1, secondBounds.2]
    have above : (other : ℚ) < mantissa + 1 := by linarith [firstBounds.2, secondBounds.1]
    have below' : mantissa < other + 1 := by exact_mod_cast below
    have above' : other < mantissa + 1 := by exact_mod_cast above
    omega
  subst same
  cases half <;> cases more <;> cases otherHalf <;> cases otherMore <;>
    first
    | rfl
    | (exfalso; simp only [Represents] at firstRepresents secondRepresents; linarith)

/-- An exact mantissa represents itself. -/
theorem represents_exact (mantissa : Nat) :
    Represents (.ofMantissaAndAccuracy mantissa .exact) mantissa :=
  rfl

/-- The remainder of a division tells the bits after the quotient. -/
theorem represents_quotient (numerator : Nat) {denominator : Nat} (positive : 0 < denominator) :
    Represents (.ofMantissaAndAccuracy (numerator / denominator)
      (accuracyOfFraction (numerator % denominator) denominator))
      ((numerator : ℚ) / denominator) := by
  have positiveRatio : (0 : ℚ) < denominator := by exact_mod_cast positive
  have small := Nat.mod_lt numerator positive
  have smallRatio : ((numerator % denominator : Nat) : ℚ) < denominator := by exact_mod_cast small
  have division : (numerator : ℚ) / denominator =
      (numerator / denominator : Nat) + ((numerator % denominator : Nat) : ℚ) / denominator := by
    have whole : (numerator : ℚ) = denominator * (numerator / denominator : Nat) +
        (numerator % denominator : Nat) := by exact_mod_cast (Nat.div_add_mod _ _).symm
    field_simp
    linarith
  rw [division]
  generalize numerator / denominator = quotient
  generalize numerator % denominator = remainder at small smallRatio
  unfold accuracyOfFraction
  split
  next exact =>
    subst exact
    simp [Represents, ExtendedMantissa.ofMantissaAndAccuracy]
  next inexact =>
    have present : (0 : ℚ) < remainder := by exact_mod_cast Nat.pos_of_ne_zero inexact
    have part : 0 < (remainder : ℚ) / denominator := div_pos present positiveRatio
    rcases Nat.lt_trichotomy (2 * remainder) denominator with less | half | more
    · have lessRatio : (2 * remainder : ℚ) < denominator := by exact_mod_cast less
      have below : (remainder : ℚ) / denominator < 1 / 2 := by
        rw [div_lt_iff₀ positiveRatio]
        linarith
      rw [Nat.compare_eq_lt.2 less]
      exact ⟨by linarith, by linarith⟩
    · have halfRatio : (2 * remainder : ℚ) = denominator := by exact_mod_cast half
      have middle : (remainder : ℚ) / denominator = 1 / 2 := by
        rw [div_eq_iff positiveRatio.ne']
        linarith
      rw [Nat.compare_eq_eq.2 half, middle]
      rfl
    · have moreRatio : (denominator : ℚ) < 2 * remainder := by exact_mod_cast more
      have above : 1 / 2 < (remainder : ℚ) / denominator := by
        rw [lt_div_iff₀ positiveRatio]
        linarith
      have below : (remainder : ℚ) / denominator < 1 := (div_lt_one positiveRatio).2 smallRatio
      rw [Nat.compare_eq_gt.2 more]
      exact ⟨by linarith, by linarith⟩

/-- Shifting by one halves the value. -/
theorem Represents.shiftRightOne {extended : ExtendedMantissa} {value : ℚ}
    (represents : Represents extended value) :
    Represents extended.shiftRightOne (value / 2) := by
  obtain ⟨mantissa, half, more⟩ := extended
  have division : (mantissa : ℚ) = 2 * (mantissa / 2 : Nat) + (mantissa % 2 : Nat) := by
    exact_mod_cast (Nat.div_add_mod _ _).symm
  unfold ExtendedMantissa.shiftRightOne
  dsimp only
  have noBit : ((0 : Nat) != 0) = false := rfl
  have bit : ((1 : Nat) != 0) = true := rfl
  rcases Nat.mod_two_eq_zero_or_one mantissa with even | odd
  · rw [even, noBit]
    rw [even] at division
    push_cast at division
    cases half <;> cases more <;>
      simp only [Represents, Bool.or_self, Bool.or_true, Bool.or_false] at represents ⊢ <;>
      first
      | linarith
      | exact ⟨by linarith, by linarith⟩
  · rw [odd, bit]
    rw [odd] at division
    push_cast at division
    cases half <;> cases more <;>
      simp only [Represents, Bool.or_self, Bool.or_true, Bool.or_false] at represents ⊢ <;>
      first
      | linarith
      | exact ⟨by linarith, by linarith⟩

/-- Shifting divides the value by a power of two. -/
theorem Represents.shiftRight {extended : ExtendedMantissa} {value : ℚ}
    (represents : Represents extended value) (count : Nat) :
    Represents (extended >>> count) (value / 2 ^ count) := by
  induction count with
  | zero =>
      rw [pow_zero, div_one]
      exact represents
  | succ count inductionHypothesis =>
      rw [pow_succ, ← div_div]
      exact inductionHypothesis.shiftRightOne

end Remainders

section Places

/-- The exponent of the last bit that a float keeps of a value. -/
def lastPlace (value : ℚ) : Int :=
  max (Int.log 2 value - 52) (-1074)

/-- The logarithm is the greatest exponent whose power fits. -/
theorem le_log_iff {value : ℚ} (positive : 0 < value) (exponent : Int) :
    exponent ≤ Int.log 2 value ↔ (2 : ℚ) ^ exponent ≤ value :=
  (Int.zpow_le_iff_le_log (by decide) positive).symm

/-- A power of two adds its exponent to the logarithm. -/
theorem log_mul_zpow {value : ℚ} (positive : 0 < value) (exponent : Int) :
    Int.log 2 (value * 2 ^ exponent) = Int.log 2 value + exponent := by
  have power : (0 : ℚ) < 2 ^ exponent := zpow_pos (by norm_num) _
  have below : ∀ other : Int,
      other ≤ Int.log 2 (value * 2 ^ exponent) ↔ other ≤ Int.log 2 value + exponent := by
    intro other
    rw [le_log_iff (mul_pos positive power), ← sub_le_iff_le_add, le_log_iff positive,
      zpow_sub₀ (by norm_num), div_le_iff₀ power]
  exact Int.le_antisymm ((below _).1 (Int.le_refl _)) ((below _).2 (Int.le_refl _))

/-- The last place of a mantissa of 53 bits, if it is not subnormal. -/
theorem targetExponent_eq (mantissa : Nat) (exponent : Int) :
    Format.binary64.targetExponent (totalExponent mantissa exponent) =
      max ((mantissa.log2 : Int) + exponent - 52) (-1074) := by
  have bits : Format.binary64.mantissaBits = 53 := rfl
  have least : Format.binary64.minExponent = -1074 := rfl
  unfold Format.targetExponent totalExponent
  rw [bits, least]
  congr 1
  push_cast
  ring

/-- The place is found from the mantissa, even where the mantissa is rounded down. -/
theorem Represents.targetExponent_eq {extended : ExtendedMantissa} {units : ℚ}
    (represents : Represents extended units) (positive : 0 < units) {exponent : Int}
    (low : exponent ≤ lastPlace (units * 2 ^ exponent)) :
    Format.binary64.targetExponent (totalExponent extended.mantissa exponent) =
      lastPlace (units * 2 ^ exponent) := by
  obtain ⟨atLeast, below⟩ := represents.bounds
  rw [Unpacking.targetExponent_eq]
  unfold lastPlace at low ⊢
  rw [log_mul_zpow positive] at low ⊢
  rcases Nat.eq_zero_or_pos extended.mantissa with zero | present
  · rw [zero] at below
    have small : Int.log 2 units < 0 := by
      rw [← Int.not_le, le_log_iff positive, zpow_zero]
      push_cast at below
      linarith
    rw [zero, Nat.log2_zero]
    omega
  · have powerLow : 2 ^ extended.mantissa.log2 ≤ extended.mantissa :=
      Nat.log2_self_le (Nat.ne_of_gt present)
    have powerHigh : extended.mantissa + 1 ≤ 2 ^ (extended.mantissa.log2 + 1) :=
      Nat.lt_log2_self
    have low : ((2 ^ extended.mantissa.log2 : Nat) : ℚ) ≤ extended.mantissa := by
      exact_mod_cast powerLow
    have high : ((extended.mantissa + 1 : Nat) : ℚ) ≤ (2 ^ (extended.mantissa.log2 + 1) : Nat) := by
      exact_mod_cast powerHigh
    have same : Int.log 2 units = extended.mantissa.log2 := by
      apply Int.le_antisymm
      · rw [← Int.lt_add_one_iff, ← Int.not_le, le_log_iff positive]
        push_cast at high
        exact_mod_cast not_le.2 (below.trans_le high)
      · rw [le_log_iff positive]
        exact_mod_cast low.trans atLeast
    rw [same]

end Places

section Rounding

/-- Whatever the accuracy, the mantissa is the given one. -/
theorem ofMantissaAndAccuracy_mantissa (mantissa : Nat) (accuracy : Accuracy) :
    (ExtendedMantissa.ofMantissaAndAccuracy mantissa accuracy).mantissa = mantissa := by
  rcases accuracy with _ | order
  · rfl
  · cases order <;> rfl

/-- What is kept of a value is told by the value. -/
theorem shiftToTargetExponent_spec {mantissa : Nat} {exponent : Int} {accuracy : Accuracy}
    {units : ℚ} (represents : Represents (.ofMantissaAndAccuracy mantissa accuracy) units)
    (positive : 0 < units) (low : exponent ≤ lastPlace (units * 2 ^ exponent)) :
    Represents (shiftToTargetExponent Format.binary64 mantissa exponent accuracy).1
        (units * 2 ^ exponent / 2 ^ lastPlace (units * 2 ^ exponent)) ∧
      (shiftToTargetExponent Format.binary64 mantissa exponent accuracy).2 =
        lastPlace (units * 2 ^ exponent) := by
  have target := represents.targetExponent_eq positive low
  rw [ofMantissaAndAccuracy_mantissa] at target
  unfold shiftToTargetExponent shiftToExponent
  dsimp only
  rw [target]
  generalize lastPlace (units * 2 ^ exponent) = place at low
  obtain ⟨count, rfl⟩ := Int.le.dest low
  have shift : (exponent + count - exponent).toNat = count := by omega
  have ratio : units * 2 ^ exponent / 2 ^ (exponent + count) = units / 2 ^ count := by
    rw [zpow_add₀ (by norm_num), zpow_natCast]
    field_simp
  rw [shift, ratio]
  exact ⟨represents.shiftRight count, rfl⟩

/-- A float to which a value is rounded. The value is given by a mantissa with its remainder
and an exponent that is not above the last place that is kept. -/
inductive IsRounded (value : ℚ) : UnpackedFloat → Prop where
  | intro (mantissa : Nat) (exponent : Int) (accuracy : Accuracy) (units : ℚ)
      (represents : Represents (.ofMantissaAndAccuracy mantissa accuracy) units)
      (value_eq : units * 2 ^ exponent = value) (low : exponent ≤ lastPlace value) :
      IsRounded value
        (roundWithAccuracy Format.binary64 .positive mantissa exponent accuracy)

/-- A value is rounded in one way. -/
theorem IsRounded.unique {value : ℚ} (positive : 0 < value) {first second : UnpackedFloat}
    (firstRounded : IsRounded value first) (secondRounded : IsRounded value second) :
    first = second := by
  have shifted : ∀ {mantissa : Nat} {exponent : Int} {accuracy : Accuracy} {units : ℚ},
      Represents (.ofMantissaAndAccuracy mantissa accuracy) units →
      units * 2 ^ exponent = value → exponent ≤ lastPlace value →
      Represents (shiftToTargetExponent Format.binary64 mantissa exponent accuracy).1
          (value / 2 ^ lastPlace value) ∧
        (shiftToTargetExponent Format.binary64 mantissa exponent accuracy).2 =
          lastPlace value := by
    intro mantissa exponent accuracy units represents value_eq low
    subst value_eq
    have power : (0 : ℚ) < 2 ^ exponent := zpow_pos (by norm_num) _
    exact shiftToTargetExponent_spec represents (pos_of_mul_pos_left positive power.le) low
  obtain ⟨mantissa, exponent, accuracy, units, represents, value_eq, low⟩ := firstRounded
  obtain ⟨mantissa', exponent', accuracy', units', represents', value_eq', low'⟩ := secondRounded
  obtain ⟨kept, place⟩ := shifted represents value_eq low
  obtain ⟨kept', place'⟩ := shifted represents' value_eq' low'
  have same : shiftToTargetExponent Format.binary64 mantissa exponent accuracy =
      shiftToTargetExponent Format.binary64 mantissa' exponent' accuracy' :=
    Prod.ext (kept.unique kept') (place.trans place'.symm)
  unfold roundWithAccuracy
  rw [same]

/-- A product of finite floats. -/
theorem isRounded_mul {first second : Nat} {firstExponent secondExponent : Int}
    (firstPositive : 0 < first) (secondPositive : 0 < second)
    (low : firstExponent + secondExponent ≤
      lastPlace ((first * 2 ^ firstExponent) * (second * 2 ^ secondExponent))) :
    IsRounded ((first * 2 ^ firstExponent) * (second * 2 ^ secondExponent))
      (mul Format.binary64 (.finite .positive first firstExponent firstPositive)
        (.finite .positive second secondExponent secondPositive)) := by
  refine .intro (first * second) (firstExponent + secondExponent) .exact (first * second : Nat)
    (represents_exact _) ?_ low
  rw [zpow_add₀ (by norm_num)]
  push_cast
  ring

/-- The logarithm of a mantissa with an exponent. -/
theorem log_mul_natCast {mantissa : Nat} (positive : 0 < mantissa) (exponent : Int) :
    Int.log 2 ((mantissa : ℚ) * 2 ^ exponent) = mantissa.log2 + exponent := by
  rw [log_mul_zpow (by exact_mod_cast positive), Int.log_natCast, Nat.log2_eq_log_two]

/-- A mantissa is no smaller than its first bit. -/
theorem zpow_log2_le {mantissa : Nat} (positive : 0 < mantissa) :
    (2 : ℚ) ^ (mantissa.log2 : Int) ≤ mantissa := by
  rw [zpow_natCast]
  exact_mod_cast Nat.log2_self_le (Nat.ne_of_gt positive)

/-- A mantissa is smaller than the bit before its first one. -/
theorem lt_zpow_log2 (mantissa : Nat) : (mantissa : ℚ) < 2 ^ ((mantissa.log2 : Int) + 1) := by
  have below : mantissa < 2 ^ (mantissa.log2 + 1) := Nat.lt_log2_self
  exact_mod_cast below

/-- The place of a quotient is at most one below the difference of the places. -/
theorem log_quotient {first second : Nat} {firstExponent secondExponent : Int}
    (firstPositive : 0 < first) (secondPositive : 0 < second) :
    (first.log2 : Int) + firstExponent - (second.log2 + secondExponent) - 1 ≤
      Int.log 2 (((first : ℚ) * 2 ^ firstExponent) / (second * 2 ^ secondExponent)) := by
  have firstRatio : (0 : ℚ) < first := by exact_mod_cast firstPositive
  have secondRatio : (0 : ℚ) < second := by exact_mod_cast secondPositive
  have firstPower : (0 : ℚ) < 2 ^ firstExponent := zpow_pos (by norm_num) _
  have secondPower : (0 : ℚ) < 2 ^ secondExponent := zpow_pos (by norm_num) _
  rw [le_log_iff (by positivity), le_div_iff₀ (by positivity)]
  calc (2 : ℚ) ^ ((first.log2 : Int) + firstExponent - (second.log2 + secondExponent) - 1) *
        (second * 2 ^ secondExponent)
      ≤ 2 ^ ((first.log2 : Int) + firstExponent - (second.log2 + secondExponent) - 1) *
          (2 ^ ((second.log2 : Int) + 1) * 2 ^ secondExponent) := by
        have factor : (0 : ℚ) ≤
            2 ^ ((first.log2 : Int) + firstExponent - (second.log2 + secondExponent) - 1) :=
          (zpow_pos (by norm_num) _).le
        exact mul_le_mul_of_nonneg_left
          (mul_le_mul_of_nonneg_right (lt_zpow_log2 second).le secondPower.le) factor
    _ = 2 ^ (first.log2 : Int) * 2 ^ firstExponent := by
        rw [← zpow_add₀ (by norm_num), ← zpow_add₀ (by norm_num), ← zpow_add₀ (by norm_num)]
        congr 1
        ring
    _ ≤ first * 2 ^ firstExponent := by
        gcongr
        exact zpow_log2_le firstPositive

/-- A quotient of finite floats. -/
theorem isRounded_div {first second : Nat} {firstExponent secondExponent : Int}
    (firstPositive : 0 < first) (secondPositive : 0 < second) :
    IsRounded ((first * 2 ^ firstExponent) / (second * 2 ^ secondExponent))
      (div Format.binary64 (.finite .positive first firstExponent firstPositive)
        (.finite .positive second secondExponent secondPositive)) := by
  have bits : Format.binary64.mantissaBits = 53 := rfl
  have least : Format.binary64.minExponent = -1074 := rfl
  have place : (first.log2 : Int) + firstExponent - (second.log2 + secondExponent) - 1 ≤
      Int.log 2 (((first : ℚ) * 2 ^ firstExponent) / (second * 2 ^ secondExponent)) :=
    log_quotient firstPositive secondPositive
  have secondRatio : (second : ℚ) ≠ 0 := by exact_mod_cast Nat.ne_of_gt secondPositive
  unfold div divCore
  simp only [Format.targetExponent, totalExponent, bits, least]
  generalize target : min (firstExponent - secondExponent) _ = exponent
  refine .intro _ exponent _ _ (represents_quotient _ secondPositive) ?_ ?_
  · obtain ⟨count, shift⟩ : ∃ count : Nat, firstExponent - secondExponent = exponent + count :=
      ⟨(firstExponent - secondExponent - exponent).toNat, by omega⟩
    have amount : (firstExponent - secondExponent - exponent).toNat = count := by omega
    have sum : firstExponent = exponent + count + secondExponent := by omega
    rw [amount, Nat.shiftLeft_eq, sum, zpow_add₀ (by norm_num), zpow_add₀ (by norm_num)]
    push_cast
    rw [zpow_natCast]
    field_simp
  · unfold lastPlace
    omega

/-- A canonical pair ends in its last place. -/
theorem IsCanonical.lastPlace_eq {mantissa : Nat} {exponent : Int}
    (canonical : IsCanonical mantissa exponent) :
    lastPlace ((mantissa : ℚ) * 2 ^ exponent) = exponent := by
  obtain ⟨positive, mantissa_lt, le_exponent, exponent_le, full⟩ := canonical
  have filled := log2_eq_iff positive mantissa_lt
  have bound := (Nat.log2_lt (k := 53) (Nat.ne_of_gt positive)).2 mantissa_lt
  rw [lastPlace, log_mul_natCast positive]
  omega

/-- Canonical parts stay as they are. -/
theorem IsCanonical.roundWithAccuracy_eq {mantissa : Nat} {exponent : Int}
    (canonical : IsCanonical mantissa exponent) :
    roundWithAccuracy Format.binary64 .positive mantissa exponent .exact =
      .finite .positive mantissa exponent canonical.positive := by
  have target : Format.binary64.targetExponent (totalExponent mantissa exponent) = exponent := by
    have place := canonical.lastPlace_eq
    rwa [lastPlace, log_mul_natCast canonical.positive, ← targetExponent_eq] at place
  have kept : shiftToTargetExponent Format.binary64 mantissa exponent .exact =
      (⟨mantissa, false, false⟩, exponent) := by
    unfold shiftToTargetExponent shiftToExponent
    dsimp only
    rw [target, Int.sub_self]
    exact Prod.ext rfl (Int.add_zero _)
  unfold roundWithAccuracy
  rw [kept]
  dsimp only [ExtendedMantissa.roundedMantissa, ExtendedMantissa.accuracy,
    Accuracy.roundToNearestEven]
  rw [kept]
  exact dif_neg (Nat.ne_of_gt canonical.positive)

/-- A canonical pair needs no rounding. -/
theorem IsCanonical.isRounded {mantissa : Nat} {exponent : Int}
    (canonical : IsCanonical mantissa exponent) :
    IsRounded (mantissa * 2 ^ exponent)
      (.finite .positive mantissa exponent canonical.positive) := by
  rw [← canonical.roundWithAccuracy_eq]
  exact .intro mantissa exponent .exact mantissa (represents_exact _) rfl
    (Int.le_of_eq canonical.lastPlace_eq.symm)

end Rounding

section Scientific

/-- A decimal whose exponent is not huge is rounded. -/
theorem isRounded_ofScientific {digits : Nat} (positive : 0 < digits) {exponent : Int}
    (low : -2048 ≤ exponent) (high : exponent ≤ 2048) :
    IsRounded (digits * 10 ^ exponent) (ofScientific Format.binary64 digits exponent) := by
  have exponentBits : (2 : Int) ^ Format.binary64.exponentBits = 2048 := rfl
  have bits : Format.binary64.mantissaBits = 53 := rfl
  unfold ofScientific
  rw [dif_neg (Nat.ne_of_gt positive), if_neg (by rw [exponentBits]; omega),
    if_neg (by rw [exponentBits]; omega)]
  split
  next whole =>
    obtain ⟨count, rfl⟩ := Int.eq_ofNat_of_zero_le whole
    have value : (digits : ℚ) * (10 : ℚ) ^ (count : Int) =
        ((digits <<< 53 : Nat) * (2 : ℚ) ^ (-53 : Int)) *
          ((10 ^ count : Nat) * (2 : ℚ) ^ (0 : Int)) := by
      rw [Nat.shiftLeft_eq, zpow_natCast]
      push_cast
      norm_num
      ring
    have large : (2 : ℚ) ^ (0 : Int) ≤ (digits : ℚ) * 10 ^ (count : Int) := by
      have natural : 1 ≤ digits * 10 ^ count := Nat.mul_pos positive (Nat.pow_pos (by decide))
      rw [zpow_zero, zpow_natCast]
      exact_mod_cast natural
    have ratio : (0 : ℚ) < (digits : ℚ) * 10 ^ (count : Int) := by linarith
    have place := (le_log_iff ratio 0).2 large
    rw [value] at place ⊢
    refine isRounded_mul _ _ ?_
    unfold lastPlace
    omega
  next fraction =>
    obtain ⟨count, rfl⟩ : ∃ count : Nat, exponent = -count := ⟨(-exponent).toNat, by omega⟩
    have value : (digits : ℚ) * (10 : ℚ) ^ (-(count : Int)) =
        (digits * (2 : ℚ) ^ (0 : Int)) / ((10 ^ count : Nat) * (2 : ℚ) ^ (0 : Int)) := by
      rw [zpow_neg, zpow_natCast]
      push_cast
      norm_num
      rfl
    have natural : (- -(count : Int)).toNat = count := by omega
    simp only [natural]
    rw [value]
    exact isRounded_div _ _

/-- A float that is exactly a number, with all bits of its mantissa in use. -/
def Denotes (value : Float) (number : ℚ) : Prop :=
  ∃ mantissa exponent, ∃ canonical : IsCanonical mantissa exponent,
    value.toModel.unpack = .finite .positive mantissa exponent canonical.positive ∧
      2 ^ 52 ≤ mantissa ∧ (mantissa : ℚ) * 2 ^ exponent = number

/-- Natural numbers of 53 bits are represented exactly. -/
theorem denotes_natural {number : Nat} (positive : 0 < number) (small : number < 2 ^ 53) :
    Denotes number.toUInt64.toFloat number := by
  have bound : number.log2 < 53 := (Nat.log2_lt (Nat.ne_of_gt positive)).2 small
  have lower := Nat.log2_self_le (Nat.ne_of_gt positive)
  have upper := Nat.lt_log2_self (n := number)
  obtain ⟨count, full⟩ : ∃ count, number.log2 + count = 52 :=
    ⟨52 - number.log2, by omega⟩
  have low : 2 ^ 52 ≤ number * 2 ^ count := by
    rw [← full, Nat.pow_add]
    exact Nat.mul_le_mul_right _ lower
  have high : number * 2 ^ count < 2 ^ 53 := by
    have sum : 53 = number.log2 + 1 + count := by omega
    rw [sum, Nat.pow_add]
    exact Nat.mul_lt_mul_of_pos_right upper (Nat.two_pow_pos count)
  have canonical : IsCanonical (number <<< count) (0 - (count : Int)) := by
    rw [Nat.shiftLeft_eq]
    exact ⟨by omega, high, by omega, by omega, .inl low⟩
  have size : UInt64.size = 2 ^ 64 := rfl
  have word : number.toUInt64.toNat = number :=
    UInt64.toNat_ofNat_of_lt' (by omega)
  have rounded : ofUInt64 Format.binary64 number.toUInt64 =
      .finite .positive (number <<< count) (0 - (count : Int)) canonical.positive := by
    have above : compare (number : Int) 0 = .gt := Int.compare_eq_gt.2 (by omega)
    have shift : (0 - max ((number.log2 : Int) + 0 - 52) (-1074)).toNat = count := by omega
    unfold ofUInt64 ofNat ofInt UnpackedFloat.normalize
    rw [word, above]
    dsimp only
    rw [Int.toNat_natCast, Float.Model.UnpackedFloat.round, targetExponent_eq]
    unfold decreaseExponent
    dsimp only
    rw [shift]
    exact canonical.roundWithAccuracy_eq
  have packed : number.toUInt64.toFloat.toModel.unpack =
      unpack Format.binary64 (pack Format.binary64 (ofUInt64 Format.binary64 number.toUInt64)) :=
    rfl
  refine ⟨_, _, canonical, ?_, ?_, ?_⟩
  · rw [packed, rounded, canonical.unpack_pack]
  · rwa [Nat.shiftLeft_eq]
  · rw [Nat.shiftLeft_eq, zero_sub, zpow_neg, zpow_natCast]
    push_cast
    field_simp

/-- Whether a float is exactly a power of ten. -/
def isPower (value : Float) (exponent : Nat) : Bool :=
  match value.toModel.unpack with
  | .finite .positive mantissa place _ =>
      2 ^ 52 ≤ mantissa && mantissa < 2 ^ 53 && -1074 ≤ place && place ≤ 971 &&
        mantissa * 2 ^ place.toNat == 10 ^ exponent * 2 ^ (-place).toNat
  | _ => false

/-- The powers in the table are powers of ten. -/
theorem isPower_table : ∀ exponent (small : exponent < 23),
    isPower (Float.exactlyRepresentablePowersOfTen[exponent]) exponent = true := by
  decide +kernel

/-- The powers of ten in the table are exact. -/
theorem denotes_power {exponent : Nat} (small : exponent < 23) :
    Denotes (Float.exactlyRepresentablePowersOfTen[exponent]) (10 ^ exponent) := by
  have checked := isPower_table exponent small
  generalize Float.exactlyRepresentablePowersOfTen[exponent] = value at checked ⊢
  unfold isPower at checked
  split at checked
  next mantissa place positive parts =>
    simp only [Bool.and_eq_true, decide_eq_true_eq, beq_iff_eq] at checked
    obtain ⟨⟨⟨⟨full, small⟩, low⟩, high⟩, same⟩ := checked
    refine ⟨mantissa, place, ⟨positive, small, low, high, .inl full⟩, parts, full, ?_⟩
    have ratio : (mantissa : ℚ) * 2 ^ place.toNat = 10 ^ exponent * 2 ^ (-place).toNat := by
      exact_mod_cast same
    rcases Int.eq_nat_or_neg place with ⟨count, rfl | rfl⟩
    · rw [Int.toNat_natCast, Int.toNat_neg_natCast, pow_zero, mul_one] at ratio
      rw [zpow_natCast, ratio]
    · rw [Int.neg_neg, Int.toNat_natCast, Int.toNat_neg_natCast, pow_zero, mul_one] at ratio
      rw [zpow_neg, zpow_natCast, ratio]
      field_simp
  next => cases checked

/-- A quotient of floats is the rounded quotient of their numbers. -/
theorem Denotes.isRounded_div {first second : Float} {firstNumber secondNumber : ℚ}
    (firstDenotes : Denotes first firstNumber) (secondDenotes : Denotes second secondNumber) :
    ∃ result, IsRounded (firstNumber / secondNumber) result ∧
      first / second = Float.ofModel (.pack result) := by
  obtain ⟨mantissa, exponent, canonical, parts, _, rfl⟩ := firstDenotes
  obtain ⟨mantissa', exponent', canonical', parts', _, rfl⟩ := secondDenotes
  refine ⟨_, Unpacking.isRounded_div canonical.positive canonical'.positive, ?_⟩
  rw [← parts, ← parts']
  rfl

/-- A product of floats is the rounded product of their numbers. -/
theorem Denotes.isRounded_mul {first second : Float} {firstNumber secondNumber : ℚ}
    (firstDenotes : Denotes first firstNumber) (secondDenotes : Denotes second secondNumber) :
    ∃ result, IsRounded (firstNumber * secondNumber) result ∧
      first * second = Float.ofModel (.pack result) := by
  obtain ⟨mantissa, exponent, canonical, parts, full, rfl⟩ := firstDenotes
  obtain ⟨mantissa', exponent', canonical', parts', full', rfl⟩ := secondDenotes
  have low : exponent + exponent' ≤
      lastPlace ((mantissa * 2 ^ exponent) * (mantissa' * 2 ^ exponent')) := by
    have positive := Nat.mul_pos canonical.positive canonical'.positive
    have large : 2 ^ 52 ≤ mantissa * mantissa' :=
      Nat.le_trans full (Nat.le_mul_of_pos_right _ canonical'.positive)
    have value : (mantissa : ℚ) * 2 ^ exponent * (mantissa' * 2 ^ exponent') =
        (mantissa * mantissa' : Nat) * 2 ^ (exponent + exponent') := by
      rw [zpow_add₀ (by norm_num)]
      push_cast
      ring
    have bits := (Nat.le_log2 (Nat.ne_of_gt positive)).2 large
    rw [value, lastPlace, log_mul_natCast positive]
    omega
  refine ⟨_, Unpacking.isRounded_mul canonical.positive canonical'.positive low, ?_⟩
  rw [← parts, ← parts']
  rfl

end Scientific

end Unpacking

namespace Decimal

open Unpacking

/-- The number that a decimal names. -/
def value (decimal : Decimal) : ℚ :=
  decimal.digits * 10 ^ decimal.exponent

/-- Exponents that are far enough from the ends of the range to be read exactly. -/
def IsModerate (decimal : Decimal) : Prop :=
  0 < decimal.digits ∧ -2048 ≤ decimal.exponent ∧ decimal.exponent ≤ 2048

/-- A decimal with some digit is positive. -/
theorem value_pos {decimal : Decimal} (positive : 0 < decimal.digits) : 0 < decimal.value := by
  have digits : (0 : ℚ) < decimal.digits := by exact_mod_cast positive
  exact mul_pos digits (zpow_pos (by norm_num) _)

/-- A decimal is read as its value, rounded. -/
theorem isRounded_toFloat {decimal : Decimal} (moderate : decimal.IsModerate) :
    ∃ result, IsRounded decimal.value result ∧
      decimal.toFloat = Float.ofModel (.pack result) := by
  obtain ⟨digits, exponent⟩ := decimal
  obtain ⟨positive, low, high⟩ := moderate
  dsimp only at positive low high
  unfold toFloat Float.ofScientific value
  dsimp only
  split
  next fast =>
    obtain ⟨smallDigits, smallExponent⟩ := fast
    have number := denotes_natural positive smallDigits
    have power := denotes_power (Nat.lt_succ_of_le smallExponent)
    split
    next negative =>
      have below : exponent < 0 := of_decide_eq_true negative
      have inverse : (10 : ℚ) ^ exponent = (10 ^ exponent.natAbs)⁻¹ := by
        rw [← zpow_natCast, ← zpow_neg, Int.natCast_natAbs, abs_of_neg below, neg_neg]
      rw [inverse, ← div_eq_mul_inv]
      exact number.isRounded_div power
    next whole =>
      have atLeast : 0 ≤ exponent := Int.not_lt.1 fun below => whole (decide_eq_true below)
      have natural : (10 : ℚ) ^ exponent = 10 ^ exponent.natAbs := by
        rw [← zpow_natCast, Int.natCast_natAbs, abs_of_nonneg atLeast]
      rw [natural]
      exact number.isRounded_mul power
  next slow =>
    refine ⟨_, isRounded_ofScientific positive low high, ?_⟩
    have signed : (if decide (exponent < 0) then Int.negOfNat exponent.natAbs
        else Int.ofNat exponent.natAbs) = exponent := by
      rw [Int.negOfNat_eq, Int.ofNat_eq_natCast]
      split
      next negative =>
        have below : exponent < 0 := of_decide_eq_true negative
        omega
      next whole =>
        have atLeast : 0 ≤ exponent := Int.not_lt.1 fun below => whole (decide_eq_true below)
        omega
    rw [signed]
    rfl

/-- Two decimals of one value are read alike. -/
theorem toFloat_congr {first second : Decimal} (firstModerate : first.IsModerate)
    (secondModerate : second.IsModerate) (same : first.value = second.value) :
    first.toFloat = second.toFloat := by
  obtain ⟨result, rounded, read⟩ := isRounded_toFloat firstModerate
  obtain ⟨result', rounded', read'⟩ := isRounded_toFloat secondModerate
  rw [← same] at rounded'
  rw [read, read', rounded.unique (value_pos firstModerate.1) rounded']

/-- A decimal whose value is that of a finite float is read as this float. -/
theorem toFloat_of_value {decimal : Decimal} (moderate : decimal.IsModerate) {mantissa : Nat}
    {exponent : Int} (canonical : IsCanonical mantissa exponent)
    (same : decimal.value = mantissa * 2 ^ exponent) {value : Float}
    (parts : value.toModel.unpack =
      .finite .positive mantissa exponent canonical.positive) :
    decimal.toFloat = value := by
  obtain ⟨result, rounded, read⟩ := isRounded_toFloat moderate
  rw [same] at rounded
  have positive := value_pos moderate.1
  rw [same] at positive
  rw [read, rounded.unique positive canonical.isRounded, ← parts, pack_unpack_toModel]

end Decimal

end PoolArbiter
