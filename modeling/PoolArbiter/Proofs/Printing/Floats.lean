import Mathlib
import PoolArbiter.Binary64

/-!
# Floats and their parts

A float is packed from a sign, an exponent and a mantissa, and nothing is lost when it is
unpacked and packed again. The finite parts that floats have are canonical: the mantissa fills
its bits unless the exponent is the least one. `Binary64.magnitude?` reads the same parts off
the bits.
-/

namespace PoolArbiter

open Float.Model (Format UnpackedFloat)
open Float.Model.UnpackedFloat

namespace Unpacking

section Fields

variable (bits : BitVec Format.binary64.numBits)

/-- The mantissa is in the last 52 bits. -/
theorem toNat_unpackMantissa : (unpackMantissa bits).toNat = bits.toNat % 2 ^ 52 := by
  rw [unpackMantissa, BitVec.toNat_cast, BitVec.extractLsb_toNat]
  rfl

/-- The exponent is in the eleven bits before the mantissa. -/
theorem toNat_unpackExponent : (unpackExponent bits).toNat = bits.toNat / 2 ^ 52 % 2 ^ 11 := by
  rw [unpackExponent, BitVec.toNat_cast, BitVec.extractLsb_toNat, Nat.shiftRight_eq_div_pow]
  rfl

/-- The sign is the first bit. -/
theorem toNat_unpackSign : (unpackSign bits).toNat = bits.toNat / 2 ^ 63 := by
  have bounded : bits.toNat < 2 ^ 64 := bits.isLt
  rw [unpackSign, BitVec.toNat_cast, BitVec.extractLsb_toNat, Nat.shiftRight_eq_div_pow]
  norm_num
  omega

end Fields

section Canonical

/-- Mantissa and exponent of a finite float: the mantissa fills its bits unless the exponent is
the least one. -/
structure IsCanonical (mantissa : Nat) (exponent : Int) : Prop where
  positive : 0 < mantissa
  mantissa_lt : mantissa < 2 ^ 53
  le_exponent : -1074 ≤ exponent
  exponent_le : exponent ≤ 971
  full : 2 ^ 52 ≤ mantissa ∨ exponent = -1074

/-- A mantissa has full length exactly if its first bit is set. -/
theorem log2_eq_iff {mantissa : Nat} (positive : 0 < mantissa) (small : mantissa < 2 ^ 53) :
    mantissa.log2 + 1 = 53 ↔ 2 ^ 52 ≤ mantissa := by
  rw [Nat.add_right_cancel_iff, Nat.log2_eq_iff (Nat.ne_of_gt positive)]
  exact and_iff_left small

/-- The fields into which canonical parts are packed. -/
theorem IsCanonical.pack_eq {mantissa : Nat} {exponent : Int}
    (canonical : IsCanonical mantissa exponent) (sign : Sign) :
    ∃ (field : BitVec 11) (fraction : BitVec 52),
      pack Format.binary64 (.finite sign mantissa exponent canonical.positive) =
          packComponents Format.binary64 sign field fraction ∧
        field.toNat = (if 2 ^ 52 ≤ mantissa then (exponent + 1075).toNat else 0) ∧
        fraction.toNat = mantissa % 2 ^ 52 := by
  obtain ⟨positive, mantissa_lt, le_exponent, exponent_le, full⟩ := canonical
  have bias : exponent + (Format.binary64.exponentBias : Int) +
      Format.binary64.mantissaBitsWithoutImplicit = exponent + 1075 := by
    simp [Format.exponentBias]
    omega
  have bits : Format.binary64.mantissaBits = 53 := rfl
  have fraction : (BitVec.ofNat 52 mantissa).toNat = mantissa % 2 ^ 52 :=
    BitVec.toNat_ofNat _ _
  unfold pack
  simp only [bias, bits, log2_eq_iff positive mantissa_lt]
  rw [if_neg (by simp; omega)]
  split
  next =>
    have field : (BitVec.ofNat 11 (exponent + 1075).toNat).toNat = (exponent + 1075).toNat := by
      rw [BitVec.toNat_ofNat]
      exact Nat.mod_eq_of_lt (by omega)
    exact ⟨_, _, rfl, field, fraction⟩
  next => exact ⟨_, _, rfl, rfl, fraction⟩

/-- Finite parts agree if their numbers do. -/
theorem finite_congr {sign : Sign} {mantissa other : Nat} {exponent otherExponent : Int}
    {positive : 0 < mantissa} {otherPositive : 0 < other} (sameMantissa : mantissa = other)
    (sameExponent : exponent = otherExponent) :
    UnpackedFloat.finite sign mantissa exponent positive =
      .finite sign other otherExponent otherPositive := by
  subst sameMantissa sameExponent
  rfl

/-- What the fields of bits stand for. -/
inductive Meaning (sign : Sign) (exponent : BitVec 11) (mantissa : BitVec 52) :
    UnpackedFloat → Prop where
  | infinity (full : exponent.toNat = 2047) (noFraction : mantissa.toNat = 0) :
      Meaning sign exponent mantissa (.infinity sign)
  | notANumber (full : exponent.toNat = 2047) (fraction : mantissa.toNat ≠ 0) :
      Meaning sign exponent mantissa .notANumber
  | zero (empty : exponent.toNat = 0) (noFraction : mantissa.toNat = 0) :
      Meaning sign exponent mantissa (.zero sign)
  | least (empty : exponent.toNat = 0) (canonical : IsCanonical mantissa.toNat (-1074)) :
      Meaning sign exponent mantissa
        (.finite sign mantissa.toNat (-1074) canonical.positive)
  | normal (present : exponent.toNat ≠ 0) (notFull : exponent.toNat ≠ 2047)
      (canonical : IsCanonical (2 ^ 52 + mantissa.toNat) ((exponent.toNat : Int) - 1075)) :
      Meaning sign exponent mantissa
        (.finite sign (2 ^ 52 + mantissa.toNat) ((exponent.toNat : Int) - 1075)
          canonical.positive)

/-- Packed components mean what they are unpacked to. -/
theorem meaning_packComponents (sign : Sign) (exponent : BitVec 11) (mantissa : BitVec 52) :
    Meaning sign exponent mantissa
      (unpack Format.binary64 (packComponents Format.binary64 sign exponent mantissa)) := by
  have exponentBound : exponent.toNat < 2 ^ 11 := exponent.isLt
  have mantissaBound : mantissa.toNat < 2 ^ 52 := mantissa.isLt
  unfold unpack
  simp only [unpackSign_packComponents, unpackExponent_packComponents,
    unpackMantissa_packComponents, Sign.ofBitVec_toBitVec]
  split
  next full =>
    split
    next noFraction =>
      exact .infinity (congrArg BitVec.toNat full) (congrArg BitVec.toNat noFraction)
    next fraction =>
      exact .notANumber (congrArg BitVec.toNat full) fun zero =>
        fraction (BitVec.eq_of_toNat_eq zero)
  next notFull =>
    have notOnes : exponent.toNat ≠ 2047 := fun ones => notFull (BitVec.eq_of_toNat_eq ones)
    split
    next empty =>
      split
      next noFraction =>
        exact .zero (congrArg BitVec.toNat empty) (congrArg BitVec.toNat noFraction)
      next fraction =>
        have positive : mantissa.toNat ≠ 0 := fun zero => fraction (BitVec.eq_of_toNat_eq zero)
        subst empty
        exact .least rfl ⟨by omega, by omega, by omega, by omega, .inr rfl⟩
    next normal =>
      have notZero : exponent.toNat ≠ 0 := fun zero => normal (BitVec.eq_of_toNat_eq zero)
      have canonical : IsCanonical (2 ^ 52 + mantissa.toNat) ((exponent.toNat : Int) - 1075) :=
        ⟨by omega, by omega, by omega, by omega, .inl (by omega)⟩
      have implicit : (1#1 ++ mantissa).toNat = 2 ^ 52 + mantissa.toNat :=
        (BitVec.toNat_append _ _).trans (Nat.shiftLeft_add_eq_or_of_lt mantissaBound 1).symm
      simp only [implicit]
      exact .normal notZero notOnes canonical

/-- The bits of a float mean what they are unpacked to. -/
theorem meaning_unpack (bits : BitVec Format.binary64.numBits) :
    Meaning (Sign.ofBitVec (unpackSign bits)) (unpackExponent bits) (unpackMantissa bits)
      (unpack Format.binary64 bits) := by
  have meaning := meaning_packComponents (Sign.ofBitVec (unpackSign bits)) (unpackExponent bits)
    (unpackMantissa bits)
  rwa [packComponents_unpackSign_unpackExponent_unpackMantissa] at meaning

/-- A finite float that is packed can be unpacked again. -/
theorem IsCanonical.unpack_pack {mantissa : Nat} {exponent : Int}
    (canonical : IsCanonical mantissa exponent) (sign : Sign) :
    unpack Format.binary64
        (pack Format.binary64 (.finite sign mantissa exponent canonical.positive)) =
      .finite sign mantissa exponent canonical.positive := by
  obtain ⟨field, fraction, packed, fieldValue, fractionValue⟩ := canonical.pack_eq sign
  have meaning := meaning_packComponents sign field fraction
  rw [← packed] at meaning
  generalize unpack _ _ = value at meaning ⊢
  obtain ⟨positive, mantissa_lt, le_exponent, exponent_le, full⟩ := canonical
  have cases : (2 ^ 52 ≤ mantissa ∧ (field.toNat : Int) = exponent + 1075) ∨
      (mantissa < 2 ^ 52 ∧ field.toNat = 0) := by
    split at fieldValue
    · exact .inl (by omega)
    · exact .inr (by omega)
  cases meaning with
  | infinity full noFraction => omega
  | notANumber full fraction => omega
  | zero empty noFraction => omega
  | least empty canonical => exact finite_congr (by omega) (by omega)
  | normal present notFull canonical => exact finite_congr (by omega) (by omega)

end Canonical

section Values

/-- The sign of a float. -/
def signOf (value : Float) : Sign :=
  Sign.ofBitVec (@unpackSign Format.binary64 value.toBits.toBitVec)

/-- Packing the parts of a float gives it back. -/
theorem pack_unpack_toModel (value : Float) :
    Float.ofModel (Float.Model.pack value.toModel.unpack) = value :=
  Float.ofBits_toBits value

/-- Floats with the same parts are equal. -/
theorem eq_of_unpack_eq {first second : Float}
    (same : first.toModel.unpack = second.toModel.unpack) : first = second := by
  rw [← pack_unpack_toModel first, same, pack_unpack_toModel]

/-- The sign bit is set exactly for negative signs. -/
theorem hasSign_eq_true_iff (value : Float) :
    (Binary64.ofFloat value).hasSign = true ↔ signOf value = .negative := by
  have bit : (@unpackSign Format.binary64 value.toBits.toBitVec).toNat =
      value.toBits.toNat / 2 ^ 63 := toNat_unpackSign _
  have place : (Binary64.ofFloat value).hasSign = true ↔ 2 ^ 63 ≤ value.toBits.toNat :=
    decide_eq_true_iff
  unfold signOf
  rw [place]
  generalize @unpackSign Format.binary64 value.toBits.toBitVec = sign at bit ⊢
  have cases : sign = 0#1 ∨ sign = 1#1 := by
    clear bit
    revert sign
    decide
  have zero : (0#1).toNat = 0 := rfl
  have one : (1#1).toNat = 1 := rfl
  rcases cases with rfl | rfl
  · exact ⟨fun large => by omega, fun impossible => nomatch impossible⟩
  · exact ⟨fun _ => rfl, fun _ => by omega⟩

/-- With the sign bit the sign is negative. -/
theorem signOf_negative {value : Float} (sign : (Binary64.ofFloat value).hasSign = true) :
    signOf value = .negative :=
  (hasSign_eq_true_iff value).1 sign

/-- Without the sign bit the sign is positive. -/
theorem signOf_positive {value : Float} (sign : (Binary64.ofFloat value).hasSign = false) :
    signOf value = .positive := by
  cases same : signOf value with
  | negative => exact absurd ((hasSign_eq_true_iff value).2 same) (by rw [sign]; decide)
  | positive => rfl

/-- The parts of a float are those that its bits tell. -/
theorem unpack_toModel (value : Float) :
    match (Binary64.ofFloat value).magnitude? with
    | none => value.toModel.unpack = .infinity (signOf value) ∨ value.toModel.unpack = .notANumber
    | some magnitude =>
        (magnitude.mantissa = 0 ∧ value.toModel.unpack = .zero (signOf value)) ∨
          ∃ canonical : IsCanonical magnitude.mantissa magnitude.exponent,
            value.toModel.unpack = .finite (signOf value) magnitude.mantissa magnitude.exponent
              canonical.positive := by
  have exponentBits : (@unpackExponent Format.binary64 value.toBits.toBitVec).toNat =
      value.toBits.toNat / 2 ^ 52 % 2 ^ 11 := toNat_unpackExponent _
  have mantissaBits : (@unpackMantissa Format.binary64 value.toBits.toBitVec).toNat =
      value.toBits.toNat % 2 ^ 52 := toNat_unpackMantissa _
  have meaning : Meaning (signOf value) _ _ value.toModel.unpack :=
    meaning_unpack value.toBits.toBitVec
  generalize @unpackExponent Format.binary64 value.toBits.toBitVec = exponent
    at exponentBits meaning
  generalize @unpackMantissa Format.binary64 value.toBits.toBitVec = mantissa
    at mantissaBits meaning
  have field : (Binary64.ofFloat value).magnitudeBits / Binary64.exponentPlace =
      exponent.toNat := by
    unfold Binary64.magnitudeBits Binary64.ofFloat Binary64.signPlace Binary64.exponentPlace
    dsimp only
    omega
  have fraction : (Binary64.ofFloat value).magnitudeBits % Binary64.exponentPlace =
      mantissa.toNat := by
    unfold Binary64.magnitudeBits Binary64.ofFloat Binary64.signPlace Binary64.exponentPlace
    dsimp only
    omega
  unfold Binary64.magnitude?
  rw [field, fraction]
  generalize value.toModel.unpack = parts at meaning
  cases meaning with
  | infinity full noFraction =>
      rw [if_pos full]
      exact .inl rfl
  | notANumber full fraction =>
      rw [if_pos full]
      exact .inr rfl
  | zero empty noFraction =>
      rw [if_neg (by omega), if_pos empty]
      exact .inl ⟨noFraction, rfl⟩
  | least empty canonical =>
      rw [if_neg (by omega), if_pos empty]
      exact .inr ⟨canonical, rfl⟩
  | normal present notFull canonical =>
      rw [if_neg notFull, if_neg present]
      have swapped : IsCanonical (mantissa.toNat + Binary64.exponentPlace)
          ((exponent.toNat : Int) - 1075) := by
        rw [Nat.add_comm]
        exact canonical
      exact .inr ⟨swapped, finite_congr (Nat.add_comm _ _) rfl⟩

/-- A float that is a number is infinite, zero or has canonical parts. -/
theorem unpack_of_number {value : Float} (number : value.isNaN = false) :
    value.toModel.unpack = .infinity (signOf value) ∨
      value.toModel.unpack = .zero (signOf value) ∨
      ∃ mantissa exponent, ∃ canonical : IsCanonical mantissa exponent,
        value.toModel.unpack =
          .finite (signOf value) mantissa exponent canonical.positive := by
  have parts := unpack_toModel value
  split at parts
  next =>
    rcases parts with infinite | undefined
    · exact .inl infinite
    · have same : value.isNaN = value.toModel.unpack.isNaN := rfl
      rw [same, undefined] at number
      cases number
  next =>
    rcases parts with ⟨_, zero⟩ | ⟨canonical, finite⟩
    · exact .inr (.inl zero)
    · exact .inr (.inr ⟨_, _, canonical, finite⟩)

/-- A float is its bits. -/
theorem toFloat_ofFloat (value : Float) : (Binary64.ofFloat value).toFloat = value :=
  Float.ofBits_toBits value

/-- A positive number is its own absolute value. -/
theorem abs_of_positive {value : Float} (number : value.isNaN = false)
    (positive : signOf value = .positive) : value.abs = value := by
  have abs : value.abs = Float.ofModel (.pack value.toModel.unpack.abs) := rfl
  have same : value.toModel.unpack.abs = value.toModel.unpack := by
    rcases unpack_of_number number with parts | parts | ⟨_, _, _, parts⟩ <;>
      rw [parts, positive] <;> rfl
  rw [abs, same, pack_unpack_toModel]

/-- A negative number is its absolute value turned around. -/
theorem neg_abs_of_negative {value : Float} (number : value.isNaN = false)
    (negative : signOf value = .negative) : -value.abs = value := by
  have neg : -value.abs =
      Float.ofModel (.pack (Float.Model.pack value.toModel.unpack.abs).unpack.neg) := rfl
  have same : (Float.Model.pack value.toModel.unpack.abs).unpack.neg = value.toModel.unpack := by
    rcases unpack_of_number number with parts | parts | ⟨_, _, canonical, parts⟩
    · rw [parts, negative]
      rfl
    · rw [parts, negative]
      rfl
    · rw [parts, negative]
      exact congrArg UnpackedFloat.neg (canonical.unpack_pack .positive)
  rw [neg, same, pack_unpack_toModel]

/-- A float that is not a number has one form. -/
theorem ofFloat_undefined {value : Float} (undefined : value.isNaN = true) :
    Binary64.ofFloat value = ⟨0x7FF8000000000000⟩ := by
  rw [Float.isNaN_eq_decide_eq_nan, decide_eq_true_iff] at undefined
  rw [undefined]
  rfl

/-- There is one infinity for each sign. -/
theorem ofFloat_infinite {value : Float} (number : value.isNaN = false)
    (infinite : (Binary64.ofFloat value).magnitude? = none) :
    Binary64.ofFloat value =
      if (Binary64.ofFloat value).hasSign then ⟨0xFFF0000000000000⟩ else ⟨0x7FF0000000000000⟩ := by
  have same : value.isNaN = value.toModel.unpack.isNaN := rfl
  have parts := unpack_toModel value
  rw [infinite] at parts
  rcases parts with parts | undefined
  · have value_eq : value = Float.ofModel (.pack (.infinity (signOf value))) := by
      rw [← parts, pack_unpack_toModel]
    cases sign : (Binary64.ofFloat value).hasSign with
    | true =>
        rw [value_eq, signOf_negative sign]
        rfl
    | false =>
        rw [value_eq, signOf_positive sign]
        rfl
  · rw [same, undefined] at number
    cases number

/-- The parts of an absolute value are those of the value without the sign. -/
theorem unpack_abs {value : Float} {magnitude : Binary64.Magnitude}
    (finite : (Binary64.ofFloat value).magnitude? = some magnitude) :
    value.abs.toModel.unpack = value.toModel.unpack.abs := by
  have abs : value.abs.toModel = .pack value.toModel.unpack.abs := rfl
  have parts := unpack_toModel value
  rw [finite] at parts
  rcases parts with ⟨_, zero⟩ | ⟨canonical, parts⟩
  · have unsigned : (UnpackedFloat.zero (signOf value)).abs = .zero .positive := rfl
    rw [abs, zero, unsigned]
    rfl
  · rw [abs, parts]
    exact canonical.unpack_pack .positive

/-- The absolute value of a finite float is finite. -/
theorem isInf_abs {value : Float} {magnitude : Binary64.Magnitude}
    (finite : (Binary64.ofFloat value).magnitude? = some magnitude) : value.abs.isInf = false := by
  have same : value.abs.isInf = value.abs.toModel.unpack.isInf := rfl
  have parts := unpack_toModel value
  rw [finite] at parts
  rw [same, unpack_abs finite]
  rcases parts with ⟨_, parts⟩ | ⟨canonical, parts⟩ <;> rw [parts] <;> rfl

/-- Where the exponent field is full and there is a fraction, the value is not a number. -/
theorem isNaN_eq_true_iff (word : Binary64) :
    word.isNaN = true ↔
      (@unpackExponent Format.binary64 word.bits.toBitVec).toNat = 2047 ∧
        (@unpackMantissa Format.binary64 word.bits.toBitVec).toNat ≠ 0 := by
  have exponentBits : (@unpackExponent Format.binary64 word.bits.toBitVec).toNat =
      word.bits.toNat / 2 ^ 52 % 2 ^ 11 := toNat_unpackExponent _
  have mantissaBits : (@unpackMantissa Format.binary64 word.bits.toBitVec).toNat =
      word.bits.toNat % 2 ^ 52 := toNat_unpackMantissa _
  rw [exponentBits, mantissaBits, Binary64.isNaN, decide_eq_true_iff, Binary64.magnitudeBits]
  unfold Binary64.infinityBits Binary64.signPlace
  omega

/-- Bits that are a number are kept as they are. -/
theorem ofFloat_toFloat {word : Binary64} (number : word.isNaN = false) :
    Binary64.ofFloat word.toFloat = word := by
  have valid : Format.binary64.Valid word.bits.toBitVec := by
    refine ⟨fun full fraction => ?_⟩
    have undefined : word.isNaN = true := (isNaN_eq_true_iff word).2
      ⟨congrArg BitVec.toNat full, fun zero => fraction (BitVec.eq_of_toNat_eq zero)⟩
    rw [undefined] at number
    cases number
  have bits : (Binary64.ofFloat word.toFloat).bits =
      UInt64.ofBitVec (pack Format.binary64 (unpack Format.binary64 word.bits.toBitVec)) := rfl
  rw [pack_unpack_of_valid valid] at bits
  obtain ⟨bits'⟩ := word
  exact congrArg Binary64.mk bits

/-- Bits that are not a number have no parts. -/
theorem unpack_of_isNaN {word : Binary64} (undefined : word.isNaN = true) :
    unpack Format.binary64 word.bits.toBitVec = .notANumber := by
  obtain ⟨full, fraction⟩ := (isNaN_eq_true_iff word).1 undefined
  have meaning := meaning_unpack word.bits.toBitVec
  generalize unpack Format.binary64 word.bits.toBitVec = value at meaning ⊢
  cases meaning with
  | notANumber _ _ => rfl
  | infinity _ noFraction => exact absurd noFraction fraction
  | zero empty _ => omega
  | least empty _ => omega
  | normal _ notFull _ => exact absurd full notFull

/-- The bits and the value agree on what is not a number. -/
theorem isNaN_toFloat (word : Binary64) : word.toFloat.isNaN = word.isNaN := by
  cases undefined : word.isNaN with
  | true =>
      have model : word.toFloat.isNaN =
          (Float.Model.pack (unpack Format.binary64 word.bits.toBitVec)).unpack.isNaN := rfl
      rw [model, unpack_of_isNaN undefined]
      rfl
  | false =>
      rw [← Bool.not_eq_true]
      intro undefinedValue
      have bits := ofFloat_undefined undefinedValue
      rw [ofFloat_toFloat undefined] at bits
      rw [bits] at undefined
      revert undefined
      decide

/-- No comparison with a value that is not a number holds. -/
theorem not_lt_toFloat {word : Binary64} (undefined : word.isNaN = true) (other : Float) :
    ¬other < word.toFloat := by
  have model : word.toFloat.toModel =
      .pack (unpack Format.binary64 word.bits.toBitVec) := rfl
  have compared : ∀ value : UnpackedFloat,
      value.lt (Float.Model.pack .notANumber).unpack = false := by
    intro value
    have undefinedAgain : (Float.Model.pack .notANumber).unpack = .notANumber := rfl
    rw [undefinedAgain]
    cases value <;> rfl
  intro less
  have test : other.toModel.unpack.lt word.toFloat.toModel.unpack = true :=
    of_decide_eq_true less
  rw [model, unpack_of_isNaN undefined, compared] at test
  cases test

end Values

end Unpacking

end PoolArbiter
