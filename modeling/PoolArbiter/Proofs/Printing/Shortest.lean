import PoolArbiter.Proofs.Printing.Digits
import PoolArbiter.Proofs.Printing.Rounding

/-!
# The shortest decimal reads back

The decimal that is printed for a finite float is one that was seen to read back, or all digits
of the float. Zeros are then taken from its end, and put there again where the point needs them;
neither changes its value, and so `Decimal.toFloat_written_ofFinite` holds of every finite
float.
-/

namespace PoolArbiter

open Unpacking

namespace Decimal

section Zeros

/-- The zeros in front of a text are nothing but zeros. -/
theorem takeWhile_zeros (letters : List Char) :
    letters.takeWhile (· == '0') =
      List.replicate (letters.takeWhile (· == '0')).length '0' := by
  refine List.eq_replicate_iff.2 ⟨rfl, fun letter member => ?_⟩
  have zero := List.mem_takeWhile_imp member
  exact eq_of_beq zero

/-- The zeros at the end of a number are a power of ten. -/
theorem digits_eq_mul (number : Nat) :
    ∃ rest, number = rest *
      10 ^ ((digitText number).reverse.takeWhile (· == '0')).length := by
  refine ⟨foldDigits ((digitText number).reverse.dropWhile (· == '0')).reverse 0, ?_⟩
  have split : digitText number =
      ((digitText number).reverse.dropWhile (· == '0')).reverse ++
        ((digitText number).reverse.takeWhile (· == '0')).reverse := by
    rw [← List.reverse_append, List.takeWhile_append_dropWhile, List.reverse_reverse]
  have value := foldDigits_digitText number
  rw [split, foldDigits_append] at value
  rw [takeWhile_zeros, List.reverse_replicate, foldDigits_zeros] at value
  exact value.symm

/-- The exponent of a decimal goes up as zeros are taken from its end. -/
theorem trimmed_spec {decimal : Decimal} (positive : 0 < decimal.digits) :
    decimal.trimmed.value = decimal.value ∧ 0 < decimal.trimmed.digits ∧
      decimal.exponent ≤ decimal.trimmed.exponent := by
  obtain ⟨digits, exponent⟩ := decimal
  dsimp only at positive
  obtain ⟨rest, product⟩ := digits_eq_mul digits
  unfold trimmed
  dsimp only
  rw [if_neg (Nat.ne_of_gt positive)]
  unfold digitText at product
  generalize ((Nat.toDigits 10 digits).reverse.takeWhile (· == '0')).length = count at product ⊢
  subst product
  have power : 0 < 10 ^ count := Nat.pow_pos (by decide)
  have quotient : rest * 10 ^ count / Nat.pow 10 count = rest := Nat.mul_div_cancel _ power
  have present : 0 < rest := Nat.pos_of_mul_pos_right positive
  unfold value
  dsimp only
  rw [quotient]
  refine ⟨?_, present, by omega⟩
  rw [zpow_add₀ (by norm_num), zpow_natCast]
  push_cast
  ring

end Zeros

/-- The decimal that the text of a float in a document shows: with a digit after the point. -/
def written (decimal : Decimal) : Decimal :=
  if 0 ≤ decimal.exponent then
    ⟨decimal.digits * 10 ^ (decimal.exponent.toNat + 1), -1⟩
  else
    decimal

/-- The written decimal has the value of the decimal and at least one place after the point. -/
theorem written_spec {decimal : Decimal} (positive : 0 < decimal.digits) :
    decimal.written.value = decimal.value ∧ 0 < decimal.written.digits ∧
      min decimal.exponent (-1) ≤ decimal.written.exponent ∧ decimal.written.exponent ≤ -1 := by
  obtain ⟨digits, exponent⟩ := decimal
  dsimp only at positive
  unfold written value
  split
  next whole =>
    dsimp only at whole ⊢
    obtain ⟨count, rfl⟩ := Int.eq_ofNat_of_zero_le whole
    refine ⟨?_, Nat.mul_pos positive (Nat.pow_pos (by decide)), by omega, by omega⟩
    rw [Int.toNat_natCast, zpow_natCast]
    push_cast
    norm_num
    ring
  next fraction =>
    dsimp only at fraction ⊢
    exact ⟨rfl, positive, by omega, by omega⟩

section Range

/-- Small numerators have small decimal exponents. -/
theorem Ratio.decimalExponent_le {ratio : Ratio} {limit : Nat} (present : 0 < limit)
    (small : ratio.numerator < 2 ^ limit) : ratio.decimalExponent ≤ limit := by
  unfold decimalExponent
  split
  next =>
    have quotient : ratio.numerator / ratio.denominator < 2 ^ limit :=
      Nat.lt_of_le_of_lt (Nat.div_le_self _ _) small
    exact_mod_cast digitCount_le present quotient
  next =>
    dsimp only
    omega

/-- Small denominators have no very negative decimal exponents. -/
theorem Ratio.le_decimalExponent {ratio : Ratio} {limit : Nat} (present : 0 < limit)
    (positive : 0 < ratio.numerator) (small : ratio.denominator ≤ 2 ^ limit) :
    1 - (limit : Int) ≤ ratio.decimalExponent := by
  unfold decimalExponent
  split
  next => omega
  next below =>
    dsimp only
    generalize inverse_eq :
      (ratio.denominator + (ratio.numerator - 1)) / ratio.numerator = inverse
    have atMost : inverse ≤ ratio.denominator := by
      rw [← inverse_eq]
      refine Nat.div_le_of_le_mul ?_
      have product : ratio.numerator - 1 ≤ (ratio.numerator - 1) * ratio.denominator :=
        Nat.le_mul_of_pos_right _ (by omega)
      calc ratio.denominator + (ratio.numerator - 1)
          ≤ ratio.denominator + (ratio.numerator - 1) * ratio.denominator :=
            Nat.add_le_add_left product _
        _ = (ratio.numerator - 1 + 1) * ratio.denominator := by
            rw [Nat.add_mul, Nat.one_mul, Nat.add_comm]
        _ = ratio.numerator * ratio.denominator := by rw [Nat.sub_add_cancel positive]
    have digits : digitCount (inverse - 1) ≤ limit := digitCount_le present (by omega)
    omega

/-- How large the two sides of the ratio of a finite float are. -/
theorem Ratio.ofMagnitude_bounds {magnitude : Binary64.Magnitude}
    (canonical : IsCanonical magnitude.mantissa magnitude.exponent) :
    0 < (ofMagnitude magnitude).numerator ∧
      (ofMagnitude magnitude).numerator < 2 ^ (53 + magnitude.exponent.toNat) ∧
      (ofMagnitude magnitude).denominator ≤ 2 ^ ((-magnitude.exponent).toNat + 1) := by
  obtain ⟨mantissa, exponent⟩ := magnitude
  obtain ⟨positive, mantissa_lt, _, _, _⟩ := canonical
  dsimp only at positive mantissa_lt ⊢
  unfold ofMagnitude
  split
  next whole =>
    refine ⟨Nat.mul_pos positive (Nat.two_pow_pos _), ?_, Nat.one_le_two_pow⟩
    rw [Nat.pow_add]
    exact Nat.mul_lt_mul_of_pos_right mantissa_lt (Nat.two_pow_pos _)
  next fraction =>
    refine ⟨positive, ?_, Nat.pow_le_pow_right (by decide) (Nat.le_succ _)⟩
    rw [Nat.pow_add]
    exact Nat.lt_of_lt_of_le mantissa_lt (Nat.le_mul_of_pos_right _ (Nat.two_pow_pos _))

end Range

section Candidates

/-- Zero divided by a power of ten is zero. -/
theorem unpack_zero_div {power : Float} {number : ℚ} (denotes : Denotes power number) :
    ((0 : Nat).toUInt64.toFloat / power).toModel.unpack = .zero .positive := by
  obtain ⟨mantissa, exponent, canonical, parts, _⟩ := denotes
  have quotient : (0 : Nat).toUInt64.toFloat / power = Float.ofModel (.pack
      (Float.Model.UnpackedFloat.div Float.Model.Format.binary64 (.zero .positive)
        power.toModel.unpack)) := rfl
  have zero : Float.Model.UnpackedFloat.div Float.Model.Format.binary64 (.zero .positive)
      (.finite .positive mantissa exponent canonical.positive) = .zero .positive := rfl
  rw [quotient, parts, zero]
  rfl

/-- Zero times a power of ten is zero. -/
theorem unpack_zero_mul {power : Float} {number : ℚ} (denotes : Denotes power number) :
    ((0 : Nat).toUInt64.toFloat * power).toModel.unpack = .zero .positive := by
  obtain ⟨mantissa, exponent, canonical, parts, _⟩ := denotes
  have product : (0 : Nat).toUInt64.toFloat * power = Float.ofModel (.pack
      (Float.Model.UnpackedFloat.mul Float.Model.Format.binary64 (.zero .positive)
        power.toModel.unpack)) := rfl
  have zero : Float.Model.UnpackedFloat.mul Float.Model.Format.binary64 (.zero .positive)
      (.finite .positive mantissa exponent canonical.positive) = .zero .positive := rfl
  rw [product, parts, zero]
  rfl

/-- Without digits a decimal reads as zero. -/
theorem toFloat_zero (exponent : Int) :
    (⟨0, exponent⟩ : Decimal).toFloat.toModel.unpack = .zero .positive := by
  unfold toFloat Float.ofScientific
  dsimp only
  split
  next fast =>
    have power := denotes_power (Nat.lt_succ_of_le fast.2)
    split
    next => exact unpack_zero_div power
    next => exact unpack_zero_mul power
  next slow =>
    unfold Float.Model.ofScientific Float.Model.UnpackedFloat.ofScientific
    rw [dif_pos rfl]
    rfl

/-- A decimal that was found reads back. -/
theorem toFloat_of_nearest? {value : Float} {ratio : Ratio} {digitLimit : Nat}
    {decimal : Decimal} (found : nearest? value ratio digitLimit = some decimal) :
    decimal.toFloat = value ∧ decimal.exponent = ratio.decimalExponent - digitLimit := by
  unfold nearest? at found
  dsimp only at found
  have test := List.find?_some found
  have member := List.mem_of_find?_eq_some found
  refine ⟨Float.toBits_inj.1 (eq_of_beq test), ?_⟩
  split at member <;> simp at member <;> rcases member with rfl | rfl <;> rfl

/-- The shortest digits of a finite float read as it. -/
theorem toFloat_ofMagnitude {magnitude : Binary64.Magnitude}
    (canonical : IsCanonical magnitude.mantissa magnitude.exponent) {value : Float}
    (parts : value.toModel.unpack =
      .finite .positive magnitude.mantissa magnitude.exponent canonical.positive) :
    (ofMagnitude magnitude).IsModerate ∧ (ofMagnitude magnitude).toFloat = value := by
  have shape : (ofMagnitude magnitude).IsModerate ∧
      (ofMagnitude magnitude).value = magnitude.mantissa * 2 ^ magnitude.exponent := by
    obtain ⟨mantissa, exponent⟩ := magnitude
    obtain ⟨positive, mantissa_lt, le_exponent, exponent_le, full⟩ := canonical
    dsimp only at positive le_exponent exponent_le
    unfold ofMagnitude IsModerate Decimal.value
    split
    next whole =>
      dsimp only at whole ⊢
      obtain ⟨count, rfl⟩ := Int.eq_ofNat_of_zero_le whole
      refine ⟨⟨Nat.mul_pos positive (Nat.two_pow_pos _), by decide, by decide⟩, ?_⟩
      rw [Int.toNat_natCast, Nat.pow_eq, zpow_zero, mul_one, zpow_natCast]
      push_cast
      rfl
    next fraction =>
      dsimp only at fraction ⊢
      obtain ⟨count, rfl⟩ : ∃ count : Nat, exponent = -count := ⟨(-exponent).toNat, by omega⟩
      refine ⟨⟨Nat.mul_pos positive (Nat.pow_pos (by decide)), by omega, by omega⟩, ?_⟩
      have ten : (10 : ℚ) ^ count = 2 ^ count * 5 ^ count := by
        rw [← mul_pow]
        norm_num
      rw [Int.neg_neg, Int.toNat_natCast, Nat.pow_eq, zpow_neg, zpow_neg, zpow_natCast,
        zpow_natCast, ten]
      push_cast
      field_simp
  exact ⟨shape.1, toFloat_of_value shape.1 canonical shape.2 parts⟩

end Candidates

/-- What is printed for a finite magnitude reads back. -/
theorem toFloat_written_shortest {magnitude : Binary64.Magnitude}
    (canonical : IsCanonical magnitude.mantissa magnitude.exponent) {value : Float}
    (parts : value.toModel.unpack =
      .finite .positive magnitude.mantissa magnitude.exponent canonical.positive) :
    (shortest value magnitude).written.toFloat = value := by
  obtain ⟨decimal, moderate, read, same⟩ : ∃ decimal : Decimal, decimal.IsModerate ∧
      decimal.toFloat = value ∧ shortest value magnitude = decimal.trimmed := by
    unfold shortest
    dsimp only
    cases search : (List.range 17).findSome? fun count =>
        nearest? value (Ratio.ofMagnitude magnitude) (count + 1) with
    | none =>
        obtain ⟨moderate, read⟩ := toFloat_ofMagnitude canonical parts
        exact ⟨_, moderate, read, rfl⟩
    | some decimal =>
        obtain ⟨count, member, found⟩ := List.exists_of_findSome?_eq_some search
        obtain ⟨read, exponent⟩ := toFloat_of_nearest? found
        have few : count < 17 := List.mem_range.1 member
        obtain ⟨positive, numerator, denominator⟩ := Ratio.ofMagnitude_bounds canonical
        have low := Ratio.le_decimalExponent (Nat.succ_pos _) positive denominator
        have high := Ratio.decimalExponent_le (by omega) numerator
        have le_exponent := canonical.le_exponent
        have exponent_le := canonical.exponent_le
        have present : decimal.digits ≠ 0 := by
          intro zero
          have unpacked := toFloat_zero decimal.exponent
          rw [← zero, read, parts] at unpacked
          cases unpacked
        exact ⟨decimal, ⟨Nat.pos_of_ne_zero present, by omega, by omega⟩, read, rfl⟩
  rw [same, ← read]
  obtain ⟨trimmedValue, trimmedPositive, trimmedExponent⟩ := trimmed_spec moderate.1
  obtain ⟨writtenValue, writtenPositive, low, high⟩ := written_spec trimmedPositive
  refine toFloat_congr ⟨writtenPositive, ?_, ?_⟩ moderate (writtenValue.trans trimmedValue)
  · have moderateLow := moderate.2.1
    omega
  · omega

/-- What is printed for a finite float reads back as the float without its sign. -/
theorem toFloat_written_ofFinite {value : Float} {magnitude : Binary64.Magnitude}
    (finite : (Binary64.ofFloat value).magnitude? = some magnitude) :
    (ofFinite value magnitude).written.toFloat = value.abs := by
  have unsigned := unpack_abs finite
  have parts := unpack_toModel value
  rw [finite] at parts
  rcases parts with ⟨zero, parts⟩ | ⟨canonical, parts⟩
  · have written : (ofFinite value magnitude).written = ⟨0, -1⟩ := by
      rw [ofFinite, if_pos zero]
      rfl
    apply eq_of_unpack_eq
    rw [written, toFloat_zero, unsigned, parts]
    rfl
  · rw [ofFinite, if_neg (Nat.ne_of_gt canonical.positive)]
    refine toFloat_written_shortest canonical ?_
    rw [unsigned, parts]
    rfl

/-- Trimming leaves zero without an exponent. -/
theorem exponent_of_trimmed_zero {decimal : Decimal} (zero : decimal.trimmed.digits = 0) :
    decimal.trimmed.exponent = 0 := by
  rcases Nat.eq_zero_or_pos decimal.digits with none | positive
  · unfold trimmed
    dsimp only
    rw [if_pos none]
  · exact absurd zero (Nat.ne_of_gt (trimmed_spec positive).2.1)

/-- The digits of the float zero have no exponent. -/
theorem exponent_of_ofFinite_zero {value : Float} {magnitude : Binary64.Magnitude}
    (zero : (ofFinite value magnitude).digits = 0) :
    (ofFinite value magnitude).exponent = 0 := by
  unfold ofFinite at zero ⊢
  split at zero
  next none => rw [if_pos none]
  next present =>
    rw [if_neg present]
    exact exponent_of_trimmed_zero zero

end Decimal

end PoolArbiter
