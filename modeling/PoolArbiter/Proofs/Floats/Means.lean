import PoolArbiter.Proofs.Floats.Order
import PoolArbiter.Proofs.Printing.Rounding

/-!
# Sums and means that stay in bounds

Rounding does not carry a value past a float that bounds it, so the sum of floats stays below a
bound that is a float itself. Whole multiples of a hundred are floats as long as there are not
too many hundreds. So the mean of percentages is a percentage.
-/

namespace PoolArbiter

open Float.Model (Format UnpackedFloat totalExponent)
open Float.Model.UnpackedFloat

namespace Unpacking

section Rounding

variable {value : ℚ} {mantissa : Nat} {exponent : Int}

/-- Greater values have no smaller last places. -/
theorem lastPlace_mono {other : ℚ} (positive : 0 < value) (less : value ≤ other) :
    lastPlace value ≤ lastPlace other :=
  max_le_max_right _ (sub_le_sub_right (Int.log_mono_right positive less) _)

/-- Rounding to the nearest whole number stays below a whole bound. -/
theorem Represents.roundedMantissa_le {extended : ExtendedMantissa}
    (represents : Represents extended value) {limit : Nat} (below : value ≤ limit) :
    extended.roundedMantissa ≤ limit := by
  obtain ⟨atLeast, _⟩ := represents.bounds
  have whole : (extended.mantissa : ℚ) ≤ limit := atLeast.trans below
  have natural : extended.mantissa ≤ limit := by exact_mod_cast whole
  obtain ⟨kept, half, more⟩ := extended
  have above (strict : (kept : ℚ) < limit) : kept + 1 ≤ limit := by exact_mod_cast strict
  have even : kept % 2 ≤ 1 := Nat.le_of_lt_succ (Nat.mod_lt _ (by decide))
  cases half <;> cases more <;> simp only [Represents] at represents
  · exact natural
  · exact natural
  · have next := above (by linarith)
    exact (Nat.add_le_add_left even kept).trans next
  · exact above (by linarith)

/-- Rounding to the nearest mantissa never goes below the truncated one. -/
theorem mantissa_le_roundedMantissa (extended : ExtendedMantissa) :
    extended.mantissa ≤ extended.roundedMantissa := by
  obtain ⟨kept, half, more⟩ := extended
  cases half <;> cases more <;>
    simp [ExtendedMantissa.roundedMantissa, ExtendedMantissa.accuracy,
      Accuracy.roundToNearestEven]

/-- At its last place a value fills the bits of a mantissa, unless this is the least place. -/
theorem units_bounds (positive : 0 < value) :
    value / 2 ^ lastPlace value < 2 ^ 53 ∧
      (2 ^ 52 ≤ value / 2 ^ lastPlace value ∨ lastPlace value = -1074) := by
  have power : (0 : ℚ) < 2 ^ lastPlace value := zpow_pos (by norm_num) _
  constructor
  · rw [div_lt_iff₀ power]
    have above : value < 2 ^ (Int.log 2 value + 1) := Int.lt_zpow_succ_log_self (by decide) value
    calc value < 2 ^ (Int.log 2 value + 1) := above
      _ ≤ 2 ^ (53 + lastPlace value) :=
          zpow_le_zpow_right₀ (by norm_num) (by unfold lastPlace; omega)
      _ = 2 ^ 53 * 2 ^ lastPlace value := by rw [zpow_add₀ (by norm_num)]; norm_num
  · by_cases least : lastPlace value = -1074
    · exact .inr least
    · left
      have place : 52 + lastPlace value = Int.log 2 value := by
        unfold lastPlace at least ⊢
        omega
      have below : (2 : ℚ) ^ Int.log 2 value ≤ value := Int.zpow_log_le_self (by decide) positive
      rw [le_div_iff₀ power]
      calc (2 : ℚ) ^ 52 * 2 ^ lastPlace value = 2 ^ (52 + lastPlace value) := by
            rw [zpow_add₀ (by norm_num)]; norm_num
        _ = 2 ^ Int.log 2 value := by rw [place]
        _ ≤ value := below

/-- What is kept of a value at its last place fills the bits of a mantissa. -/
theorem Represents.full {extended : ExtendedMantissa} (positive : 0 < value)
    (represents : Represents extended (value / 2 ^ lastPlace value)) :
    2 ^ 52 ≤ extended.mantissa ∨ lastPlace value = -1074 := by
  refine (units_bounds positive).2.imp_left fun large => ?_
  have next : (2 ^ 52 : ℚ) < extended.mantissa + 1 := large.trans_lt represents.bounds.2
  exact Nat.le_of_lt_succ (by exact_mod_cast next)

/-- What is kept of a value at its last place is canonical, unless nothing is kept. -/
theorem Represents.canonical {extended : ExtendedMantissa} (positive : 0 < value)
    (represents : Represents extended (value / 2 ^ lastPlace value))
    (inRange : lastPlace value ≤ 971) (present : extended.mantissa ≠ 0) :
    IsCanonical extended.mantissa (lastPlace value) := by
  have small : (extended.mantissa : ℚ) < 2 ^ 53 :=
    represents.bounds.1.trans_lt (units_bounds positive).1
  exact ⟨Nat.pos_of_ne_zero present, by exact_mod_cast small, le_max_right _ _, inRange,
    represents.full positive⟩

/-- A float is a whole number of units at the last place of a value below it. -/
theorem IsCanonical.exists_units (canonical : IsCanonical mantissa exponent)
    (positive : 0 < value) (below : value ≤ mantissa * 2 ^ exponent) :
    ∃ units : Nat, (mantissa : ℚ) * 2 ^ exponent = units * 2 ^ lastPlace value := by
  have lower := lastPlace_mono positive below
  rw [canonical.lastPlace_eq] at lower
  obtain ⟨count, rfl⟩ : ∃ count : Nat, exponent = lastPlace value + count :=
    ⟨(exponent - lastPlace value).toNat, by omega⟩
  refine ⟨mantissa * 2 ^ count, ?_⟩
  rw [zpow_add₀ (by norm_num), zpow_natCast]
  push_cast
  ring

/-- Parts that stand for a number from zero to a bound. -/
inductive Within (bound : ℚ) : UnpackedFloat → Prop where
  | zero (sign : Sign) : Within bound (.zero sign)
  | finite {mantissa : Nat} {exponent : Int} (canonical : IsCanonical mantissa exponent)
      (atMost : mantissa * 2 ^ exponent ≤ bound) :
      Within bound (.finite .positive mantissa exponent canonical.positive)

/-- Whole units of the last place of a value have no earlier last place. -/
theorem lastPlace_units {units : Nat} (full : 2 ^ 52 ≤ units ∨ lastPlace value = -1074) :
    lastPlace value ≤ lastPlace (units * 2 ^ lastPlace value) := by
  rcases full with full | least
  · have bits := (Nat.le_log2 (n := units) (by omega)).2 full
    conv_rhs => rw [lastPlace, log_mul_natCast (by omega)]
    omega
  · rw [least]
    exact le_max_right _ _

/-- Nothing is kept of nothing. -/
theorem shiftToTargetExponent_zero (exponent : Int) :
    (shiftToTargetExponent Format.binary64 0 exponent .exact).1.mantissa = 0 := by
  have kept := ((represents_exact 0).shiftRight
    (Format.binary64.targetExponent (totalExponent 0 exponent) - exponent).toNat).bounds.1
  rw [Nat.cast_zero, zero_div] at kept
  exact Nat.le_zero.1 (by exact_mod_cast kept)

/-- Whole units that are kept once more are canonical and stay below their bound. -/
theorem shiftToTargetExponent_canonical {units : Nat} {place : Int} (positive : 0 < units)
    (low : place ≤ lastPlace (units * 2 ^ place)) (canonical : IsCanonical mantissa exponent)
    (below : units * 2 ^ place ≤ (mantissa * 2 ^ exponent : ℚ))
    (present : (shiftToTargetExponent Format.binary64 units place .exact).1.mantissa ≠ 0) :
    IsCanonical (shiftToTargetExponent Format.binary64 units place .exact).1.mantissa
        (shiftToTargetExponent Format.binary64 units place .exact).2 ∧
      ((shiftToTargetExponent Format.binary64 units place .exact).1.mantissa *
        2 ^ (shiftToTargetExponent Format.binary64 units place .exact).2 : ℚ) ≤
        mantissa * 2 ^ exponent := by
  have someUnits : (0 : ℚ) < units := by exact_mod_cast positive
  have someValue : (0 : ℚ) < units * 2 ^ place := mul_pos someUnits (zpow_pos (by norm_num) _)
  obtain ⟨kept, keptPlace⟩ := shiftToTargetExponent_spec (represents_exact units) someUnits low
  generalize shiftToTargetExponent Format.binary64 units place .exact = shifted
    at kept keptPlace present ⊢
  obtain ⟨final, finalPlace⟩ := shifted
  dsimp only at kept keptPlace present ⊢
  subst keptPlace
  have inRange : lastPlace ((units : ℚ) * 2 ^ place) ≤ 971 := by
    have lower := lastPlace_mono someValue below
    rw [canonical.lastPlace_eq] at lower
    exact lower.trans canonical.exponent_le
  have part := kept.bounds.1
  rw [le_div_iff₀ (zpow_pos (by norm_num) _)] at part
  exact ⟨kept.canonical someValue inRange present, part.trans below⟩

/-- Rounding does not carry a value past a float that bounds it. -/
theorem IsRounded.within {result : UnpackedFloat} (rounded : IsRounded value result)
    (positive : 0 < value) (canonical : IsCanonical mantissa exponent)
    (below : value ≤ mantissa * 2 ^ exponent) : Within (mantissa * 2 ^ exponent) result := by
  obtain ⟨given, place, accuracy, units, represents, rfl, low⟩ := rounded
  have power : (0 : ℚ) < 2 ^ place := zpow_pos (by norm_num) _
  obtain ⟨kept, keptPlace⟩ :=
    shiftToTargetExponent_spec represents (pos_of_mul_pos_left positive power.le) low
  generalize units * 2 ^ place = value at positive below low kept keptPlace
  have lastPower : (0 : ℚ) < 2 ^ lastPlace value := zpow_pos (by norm_num) _
  obtain ⟨limit, bound⟩ := canonical.exists_units positive below
  unfold roundWithAccuracy
  generalize shiftToTargetExponent Format.binary64 given place accuracy = shifted at kept keptPlace
  obtain ⟨extended, shiftedPlace⟩ := shifted
  dsimp only at kept keptPlace ⊢
  subst keptPlace
  have atMost : extended.roundedMantissa ≤ limit := by
    refine kept.roundedMantissa_le ?_
    rw [div_le_iff₀ lastPower, ← bound]
    exact below
  have roundedBelow : (extended.roundedMantissa : ℚ) * 2 ^ lastPlace value ≤
      mantissa * 2 ^ exponent := by
    rw [bound]
    exact mul_le_mul_of_nonneg_right (by exact_mod_cast atMost) lastPower.le
  have full : 2 ^ 52 ≤ extended.roundedMantissa ∨ lastPlace value = -1074 :=
    (kept.full positive).imp_left fun large =>
      large.trans (mantissa_le_roundedMantissa extended)
  split
  next => exact .zero _
  next present =>
    have some : 0 < extended.roundedMantissa := by
      refine Nat.pos_of_ne_zero fun none => present ?_
      rw [none]
      exact shiftToTargetExponent_zero _
    obtain ⟨canonicalAgain, belowAgain⟩ := shiftToTargetExponent_canonical some
      (lastPlace_units full) canonical roundedBelow present
    exact .finite canonicalAgain belowAgain

end Rounding

section Operations

variable {bound otherBound : ℚ} {parts others : UnpackedFloat} {mantissa : Nat} {exponent : Int}

/-- A canonical pair stands for a positive number. -/
theorem IsCanonical.value_pos (canonical : IsCanonical mantissa exponent) :
    (0 : ℚ) < mantissa * 2 ^ exponent :=
  mul_pos (by exact_mod_cast canonical.positive) (zpow_pos (by norm_num) _)

/-- What stays within a bound stays within every greater one. -/
theorem Within.mono (within : Within bound parts) (less : bound ≤ otherBound) :
    Within otherBound parts := by
  cases within with
  | zero sign => exact .zero sign
  | finite canonical atMost => exact .finite canonical (atMost.trans less)

/-- Parts within a bound survive being packed. -/
theorem Within.unpack_pack (within : Within bound parts) :
    (Float.Model.pack parts).unpack = parts := by
  cases within with
  | zero sign => cases sign <;> rfl
  | finite canonical _ => exact canonical.unpack_pack .positive

/-- Units may be cut into smaller ones. -/
theorem zoom_eq (units : Nat) (place : Int) (count : Nat) :
    ((units <<< count : Nat) : ℚ) * 2 ^ (place - count) = units * 2 ^ place := by
  rw [Nat.shiftLeft_eq, zpow_sub₀ (by norm_num), zpow_natCast]
  push_cast
  field_simp

/-- Whole units at any place are rounded. -/
theorem isRounded_round {units : Nat} (positive : 0 < units) (place : Int) :
    IsRounded (units * 2 ^ place)
      (Float.Model.UnpackedFloat.round Format.binary64 .positive units place) := by
  have target : Format.binary64.targetExponent (totalExponent units place) =
      lastPlace ((units : ℚ) * 2 ^ place) := by
    rw [targetExponent_eq, lastPlace, log_mul_natCast positive]
  unfold Float.Model.UnpackedFloat.round decreaseExponent
  dsimp only
  rw [target]
  refine .intro _ _ .exact _ (represents_exact _) (zoom_eq units place _) ?_
  omega

/-- Finite positive parts are added exactly and the sum is rounded. -/
theorem isRounded_add {first second : Nat} {firstPlace secondPlace : Int}
    (firstPositive : 0 < first) (secondPositive : 0 < second) :
    IsRounded (first * 2 ^ firstPlace + second * 2 ^ secondPlace)
      (UnpackedFloat.add Format.binary64 (.finite .positive first firstPlace firstPositive)
        (.finite .positive second secondPlace secondPositive)) := by
  have least : ∀ place : Int, min firstPlace secondPlace ≤ place →
      place - (place - min firstPlace secondPlace).toNat = min firstPlace secondPlace := by
    intro place above
    omega
  have firstUnits := zoom_eq first firstPlace (firstPlace - min firstPlace secondPlace).toNat
  have secondUnits := zoom_eq second secondPlace (secondPlace - min firstPlace secondPlace).toNat
  rw [least _ (min_le_left _ _)] at firstUnits
  rw [least _ (min_le_right _ _)] at secondUnits
  unfold UnpackedFloat.add decreaseExponent
  dsimp only
  generalize hfirst : first <<< _ = firstCount at firstUnits ⊢
  generalize second <<< _ = secondCount at secondUnits ⊢
  have present : 0 < firstCount := by
    rw [← hfirst, Nat.shiftLeft_eq]
    exact Nat.mul_pos firstPositive (Nat.two_pow_pos _)
  have applied : Sign.positive.apply firstCount + Sign.positive.apply secondCount =
      ((firstCount + secondCount : Nat) : Int) := rfl
  have above : compare ((firstCount + secondCount : Nat) : Int) 0 = .gt :=
    Int.compare_eq_gt.2 (by omega)
  unfold UnpackedFloat.normalize
  rw [applied, above, ← firstUnits, ← secondUnits, ← add_mul]
  have someUnits : 0 < firstCount + secondCount := by omega
  have rounded := isRounded_round someUnits (min firstPlace secondPlace)
  push_cast at rounded
  exact rounded

/-- A sum stays below a bound that is a float. -/
theorem Within.add (within : Within bound parts) (withinOther : Within otherBound others)
    (nonneg : 0 ≤ bound) (nonnegOther : 0 ≤ otherBound)
    (canonical : IsCanonical mantissa exponent)
    (sum : mantissa * 2 ^ exponent = bound + otherBound) :
    Within (bound + otherBound) (UnpackedFloat.add Format.binary64 parts others) := by
  cases within with
  | zero sign =>
      cases withinOther with
      | zero otherSign => cases sign <;> cases otherSign <;> exact .zero _
      | finite canonicalOther atMost =>
          exact (Within.finite canonicalOther atMost).mono (le_add_of_nonneg_left nonneg)
  | finite canonicalFirst atMost =>
      cases withinOther with
      | zero otherSign =>
          exact (Within.finite canonicalFirst atMost).mono (le_add_of_nonneg_right nonnegOther)
      | finite canonicalOther atMostOther =>
          have positive := add_pos canonicalFirst.value_pos canonicalOther.value_pos
          rw [← sum]
          refine (isRounded_add canonicalFirst.positive canonicalOther.positive).within positive
            canonical ?_
          rw [sum]
          exact add_le_add atMost atMostOther

/-- A quotient stays below a bound that is a float. -/
theorem Within.div (within : Within bound parts) {divisor : Nat} {place : Int}
    (positive : 0 < divisor) (canonical : IsCanonical mantissa exponent)
    (quotient : mantissa * 2 ^ exponent = bound / (divisor * 2 ^ place)) :
    Within (mantissa * 2 ^ exponent)
      (UnpackedFloat.div Format.binary64 parts (.finite .positive divisor place positive)) := by
  cases within with
  | zero sign => cases sign <;> exact .zero _
  | finite canonicalFirst atMost =>
      have divisorPositive : (0 : ℚ) < divisor * 2 ^ place :=
        mul_pos (by exact_mod_cast positive) (zpow_pos (by norm_num) _)
      refine (isRounded_div canonicalFirst.positive positive).within
        (div_pos canonicalFirst.value_pos divisorPositive) canonical ?_
      rw [quotient]
      exact div_le_div_of_nonneg_right atMost divisorPositive.le

end Operations

section Values

variable {value other : Float} {bound otherBound : ℚ}

/-- A float that stands for a number from zero to a bound. -/
def IsWithin (value : Float) (bound : ℚ) : Prop :=
  ∃ number : ℚ, number? value = some (number : WithTop ℚ) ∧ 0 ≤ number ∧ number ≤ bound

/-- The parts of a float within a bound are within it. -/
theorem IsWithin.parts (isWithin : IsWithin value bound) :
    Within bound value.toModel.unpack := by
  obtain ⟨number, stands, nonneg, atMost⟩ := isWithin
  have parts := isNumber_of_number? stands
  generalize value.toModel.unpack = unpacked at parts ⊢
  generalize same : ((number : WithTop ℚ) : Extended) = extended at parts
  cases parts with
  | above => cases WithBot.coe_injective same
  | below => cases same
  | @rational _ inner rational =>
      obtain rfl : number = inner := WithTop.coe_injective (WithBot.coe_injective same)
      cases rational with
      | zero sign => exact .zero sign
      | finite sign canonical =>
          cases sign with
          | positive =>
              rw [signed_positive] at atMost
              exact .finite canonical atMost
          | negative => exact absurd nonneg (not_le.2 (signed_neg canonical.positive _))

/-- Parts within a bound make a float within it. -/
theorem isWithin_ofModel {parts : UnpackedFloat} (within : Within bound parts)
    (nonneg : 0 ≤ bound) : IsWithin (Float.ofModel (.pack parts)) bound := by
  unfold IsWithin number?
  have same : (Float.ofModel (.pack parts)).toModel.unpack = parts := within.unpack_pack
  rw [same]
  cases within with
  | zero sign => exact ⟨0, rfl, le_rfl, nonneg⟩
  | finite canonical atMost =>
      refine ⟨signed .positive _ _, rfl, ?_, ?_⟩
      · rw [signed_positive]
        exact canonical.value_pos.le
      · rwa [signed_positive]

/-- A float within a bound is a number. -/
theorem IsWithin.isNaN_eq_false (within : IsWithin value bound) : value.isNaN = false := by
  obtain ⟨number, stands, _⟩ := within
  exact (isNaN_eq_false_iff value).2 ⟨_, stands⟩

/-- Zero is within every bound. -/
theorem isWithin_zero (nonneg : 0 ≤ bound) : IsWithin 0 bound :=
  ⟨0, number?_zero, le_rfl, nonneg⟩

/-- A number that is not below zero and not above a limit is within it. -/
theorem isWithin_of_not_lt {limit : Float} (stands : number? limit = some (bound : WithTop ℚ))
    (number : value.isNaN = false) (notBelow : ¬value < 0) (notAbove : ¬limit < value) :
    IsWithin value bound := by
  obtain ⟨extended, standsToo⟩ := (isNaN_eq_false_iff value).1 number
  have lower : 0 ≤ extended := by
    rw [lt_iff, number?_zero, standsToo] at notBelow
    simpa using notBelow
  have upper : extended ≤ ((bound : WithTop ℚ) : Extended) := by
    rw [lt_iff, stands, standsToo] at notAbove
    simpa using notAbove
  have parts := isNumber_of_number? standsToo
  generalize value.toModel.unpack = unpacked at parts
  cases parts with
  | above => exact absurd (WithBot.coe_le_coe.1 upper) (WithTop.not_top_le_coe _)
  | below => exact absurd lower (not_le.2 (WithBot.bot_lt_coe _))
  | rational _ =>
      exact ⟨_, standsToo, WithTop.coe_le_coe.1 (WithBot.coe_le_coe.1 lower),
        WithTop.coe_le_coe.1 (WithBot.coe_le_coe.1 upper)⟩

/-- A natural number that fits into a mantissa is a float. -/
theorem unpack_ofNat {number : Nat} (positive : 0 < number) (small : number < 2 ^ 53) :
    ∃ mantissa exponent, ∃ canonical : IsCanonical mantissa exponent,
      (Float.ofNat number).toModel.unpack =
          .finite .positive mantissa exponent canonical.positive ∧
        (mantissa : ℚ) * 2 ^ exponent = number := by
  obtain ⟨mantissa, exponent, canonical, parts, _, same⟩ := denotes_natural positive small
  refine ⟨mantissa, exponent, canonical, ?_, same⟩
  have read : Decimal.toFloat ⟨number, 0⟩ = number.toUInt64.toFloat := by
    refine Decimal.toFloat_of_value ⟨positive, by norm_num, by norm_num⟩ canonical ?_ parts
    rw [same, Decimal.value, zpow_zero, mul_one]
  have written : Float.ofNat number = Decimal.toFloat ⟨number, 0⟩ := rfl
  rw [written, read, parts]

/-- Up to this count every multiple of a hundred is a float. -/
def greatestCount : Nat :=
  2 ^ 53 / 25

/-- A multiple of a hundred that is not too great is a float. -/
theorem exists_canonical_hundreds {count : Nat} (positive : 0 < count)
    (few : count ≤ greatestCount) :
    ∃ mantissa exponent, IsCanonical mantissa exponent ∧
      (mantissa : ℚ) * 2 ^ exponent = 100 * count := by
  unfold greatestCount at few
  -- A hundred is twenty-five times four, and the four goes into the exponent.
  have some : 0 < 25 * count := by omega
  obtain ⟨mantissa, exponent, canonical, _, full, same⟩ := denotes_natural some (by omega)
  have low : exponent ≤ 0 := by
    by_contra above
    have two : (2 : ℚ) ^ (1 : Int) ≤ 2 ^ exponent := zpow_le_zpow_right₀ (by norm_num) (by omega)
    have large : (2 ^ 52 : ℚ) ≤ mantissa := by exact_mod_cast full
    have product : (2 ^ 52 : ℚ) * 2 ^ (1 : Int) ≤ mantissa * 2 ^ exponent :=
      mul_le_mul large two (by norm_num) (by positivity)
    rw [same] at product
    have less : 25 * count < 2 ^ 53 := by omega
    have lessRatio : ((25 * count : Nat) : ℚ) < 2 ^ 53 := by exact_mod_cast less
    norm_num at product lessRatio
    linarith
  refine ⟨mantissa, exponent + 2, ⟨canonical.positive, canonical.mantissa_lt,
    by have := canonical.le_exponent; omega, by omega, .inl full⟩, ?_⟩
  rw [zpow_add₀ (by norm_num), ← mul_assoc, same]
  push_cast
  ring

/-- If the sum of two bounds is representable, sums stay within it. -/
theorem IsWithin.add (within : IsWithin value bound) (withinOther : IsWithin other otherBound)
    (nonneg : 0 ≤ bound) (nonnegOther : 0 ≤ otherBound) {mantissa : Nat} {exponent : Int}
    (canonical : IsCanonical mantissa exponent)
    (sum : mantissa * 2 ^ exponent = bound + otherBound) :
    IsWithin (value + other) (bound + otherBound) :=
  isWithin_ofModel (within.parts.add withinOther.parts nonneg nonnegOther canonical sum)
    (add_nonneg nonneg nonnegOther)

/-- The sum of percentages is at most a hundred for each of them. -/
theorem isWithin_foldl {values : List Float} (each : ∀ value ∈ values, IsWithin value 100)
    {sum : Float} {count : Nat} (within : IsWithin sum (100 * count))
    (few : count + values.length ≤ greatestCount) :
    IsWithin (values.foldl (· + ·) sum) (100 * (count + values.length : Nat)) := by
  induction values generalizing sum count with
  | nil => exact within
  | cons value rest inductionHypothesis =>
      rw [List.length_cons] at few
      obtain ⟨mantissa, exponent, canonical, same⟩ :=
        exists_canonical_hundreds (Nat.succ_pos count) (by omega)
      have next : (100 * (count + 1 : Nat) : ℚ) = 100 * count + 100 := by
        push_cast
        ring
      have added : IsWithin (sum + value) (100 * (count + 1 : Nat)) := by
        rw [next]
        exact within.add (each value List.mem_cons_self) (by positivity) (by norm_num) canonical
          (same.trans next)
      have whole := inductionHypothesis
        (fun other member => each other (List.mem_cons_of_mem _ member)) added (by omega)
      have length : count + 1 + rest.length = count + (value :: rest).length := by
        rw [List.length_cons]
        omega
      rw [length] at whole
      exact whole

/-- The mean of percentages is a percentage. -/
theorem isWithin_mean {values : List Float} (each : ∀ value ∈ values, IsWithin value 100)
    (present : values ≠ []) (few : values.length ≤ greatestCount) :
    IsWithin (values.foldl (· + ·) 0 / Float.ofNat values.length) 100 := by
  have positive : 0 < values.length := List.length_pos_iff.2 present
  have start : IsWithin 0 (100 * (0 : Nat)) := isWithin_zero (by norm_num)
  have sum := (isWithin_foldl each start (by omega)).parts
  rw [Nat.zero_add] at sum
  obtain ⟨place, shift, divisor, parts, same⟩ :=
    unpack_ofNat positive (lt_of_le_of_lt few (by decide))
  obtain ⟨mantissa, exponent, canonical, hundred⟩ :=
    exists_canonical_hundreds Nat.one_pos (by decide)
  rw [Nat.cast_one, mul_one] at hundred
  have someValues : (0 : ℚ) < values.length := by exact_mod_cast positive
  have quotient : (mantissa : ℚ) * 2 ^ exponent =
      100 * values.length / (place * 2 ^ shift) := by
    rw [hundred, same, mul_div_assoc, div_self someValues.ne', mul_one]
  have mean := sum.div divisor.positive canonical quotient
  rw [hundred, ← parts] at mean
  exact isWithin_ofModel mean (by norm_num)

end Values

end Unpacking

end PoolArbiter
