import PoolArbiter.Proofs.Floats.Order

/-!
# Numbers, order and rounding by the bits

`Binary64` reads a magnitude, a place in the total order and words off the bits of a float.
Here they are compared with the number that the float stands for: the magnitude is its size
(`number?_eq`), the order of the ranks refines the order of the numbers (`rank_lt_of_lt`) and
puts no two values in one place (`rank_injective`), and rounding up to a word is the least word
that the number does not exceed (`ceilWord_le_iff`). Sums and products are those of
floating-point arithmetic wherever they are numbers (`toFloat_combine`).
-/

namespace PoolArbiter.Binary64

open Unpacking

/-- The number that a magnitude stands for. -/
def Magnitude.value (magnitude : Magnitude) : ℚ :=
  magnitude.mantissa * 2 ^ magnitude.exponent

/-- The number that bits stand for. Values that are not numbers count as infinite. -/
def number (word : Binary64) : Extended :=
  match word.magnitude? with
  | none => if word.hasSign then ⊥ else ⊤
  | some magnitude =>
      ((if word.hasSign then -magnitude.value else magnitude.value : ℚ) : WithTop ℚ)

section Order

variable {first second word : Binary64} {firstNumber secondNumber : Extended}

/-- Different values have different places in the total order. -/
theorem rank_injective (same : first.rank = second.rank) : first = second := by
  obtain ⟨bits⟩ := first
  obtain ⟨others⟩ := second
  have bounded := bits.toNat_lt
  have boundedToo := others.toNat_lt
  unfold rank hasSign magnitudeBits signPlace at same
  dsimp only at same
  have equal : bits.toNat = others.toNat := by
    simp only [decide_eq_true_eq] at same
    split at same <;> split at same <;> omega
  rw [UInt64.toNat_inj.1 equal]

/-- A magnitude by the exponent field and the fraction. The least field has no leading one and
the place of the next field. -/
theorem value_eq {magnitude : Magnitude} (finite : word.magnitude? = some magnitude) :
    magnitude.value =
      (((word.magnitudeBits % exponentPlace : Nat) : ℚ) +
          if word.magnitudeBits / exponentPlace = 0 then 0 else (exponentPlace : ℚ)) *
        2 ^ (((max 1 (word.magnitudeBits / exponentPlace) : Nat) : Int) - 1075) := by
  unfold magnitude? at finite
  dsimp only at finite
  generalize word.magnitudeBits / exponentPlace = field at finite ⊢
  generalize word.magnitudeBits % exponentPlace = fraction at finite ⊢
  split at finite
  next => cases finite
  next =>
    split at finite
    next least =>
      obtain rfl := Option.some.inj finite
      subst least
      rw [if_pos rfl, add_zero]
      rfl
    next normal =>
      obtain rfl := Option.some.inj finite
      rw [if_neg normal, Nat.max_eq_right (Nat.one_le_iff_ne_zero.2 normal)]
      unfold Magnitude.value
      push_cast
      rfl

/-- A greater exponent field comes with a leading one, which outweighs all that a smaller field
can hold. -/
theorem value_le_leading {field other fraction : Nat} (below : fraction < exponentPlace)
    (higher : field < other) :
    ((fraction : ℚ) + if field = 0 then 0 else (exponentPlace : ℚ)) *
        2 ^ (((max 1 field : Nat) : Int) - 1075) ≤
      exponentPlace * 2 ^ ((other : Int) - 1075) := by
  have cast : (fraction : ℚ) ≤ exponentPlace := by exact_mod_cast below.le
  have steps {place : Int} (atMost : place ≤ (other : Int) - 1075) :
      (exponentPlace : ℚ) * 2 ^ place ≤ exponentPlace * 2 ^ ((other : Int) - 1075) :=
    mul_le_mul_of_nonneg_left (zpow_le_zpow_right₀ (by norm_num) atMost) (Nat.cast_nonneg _)
  split
  next least =>
    subst least
    rw [add_zero]
    exact (mul_le_mul_of_nonneg_right cast (by positivity)).trans (steps (by omega))
  next normal =>
    have double : (2 : ℚ) ^ ((field : Int) + 1 - 1075) = 2 * 2 ^ ((field : Int) - 1075) := by
      rw [← zpow_one_add₀ (by norm_num)]
      congr 1
      omega
    have power : (0 : ℚ) < 2 ^ ((field : Int) - 1075) := by positivity
    rw [Nat.max_eq_right (Nat.one_le_iff_ne_zero.2 normal)]
    refine le_trans ?_ (steps (by omega : (field : Int) + 1 - 1075 ≤ (other : Int) - 1075))
    rw [double]
    nlinarith only [cast, power]

/-- The magnitudes are in the order of the bits without the sign. -/
theorem value_mono {magnitude other : Magnitude}
    (less : first.magnitudeBits ≤ second.magnitudeBits)
    (finite : first.magnitude? = some magnitude) (finiteToo : second.magnitude? = some other) :
    magnitude.value ≤ other.value := by
  have fields : first.magnitudeBits / exponentPlace ≤ second.magnitudeBits / exponentPlace :=
    Nat.div_le_div_right less
  have split := Nat.div_add_mod first.magnitudeBits exponentPlace
  have splitToo := Nat.div_add_mod second.magnitudeBits exponentPlace
  have below : first.magnitudeBits % exponentPlace < exponentPlace :=
    Nat.mod_lt _ (Nat.succ_pos _)
  rw [value_eq finite, value_eq finiteToo]
  generalize first.magnitudeBits / exponentPlace = field at fields split ⊢
  generalize second.magnitudeBits / exponentPlace = fieldToo at fields splitToo ⊢
  generalize first.magnitudeBits % exponentPlace = fraction at below split ⊢
  generalize second.magnitudeBits % exponentPlace = fractionToo at splitToo ⊢
  rcases Nat.lt_or_eq_of_le fields with higher | rfl
  · have leading : fieldToo ≠ 0 := Nat.ne_zero_of_lt higher
    have nonneg : (0 : ℚ) ≤ fractionToo := Nat.cast_nonneg _
    rw [if_neg leading, Nat.max_eq_right (Nat.one_le_iff_ne_zero.2 leading)]
    exact (value_le_leading below higher).trans
      (mul_le_mul_of_nonneg_right (by linarith) (by positivity))
  · have fractions : fraction ≤ fractionToo := by omega
    have cast : (fraction : ℚ) ≤ fractionToo := by exact_mod_cast fractions
    exact mul_le_mul_of_nonneg_right (add_le_add_left cast _) (by positivity)

/-- No magnitude is below zero. -/
theorem Magnitude.value_nonneg (magnitude : Magnitude) : 0 ≤ magnitude.value := by
  unfold Magnitude.value
  positivity

/-- Where the exponent field is full there is no magnitude, and there is none further up. -/
theorem magnitude?_eq_none_of_le (less : first.magnitudeBits ≤ second.magnitudeBits)
    (infinite : first.magnitude? = none) : second.magnitude? = none := by
  have fields : first.magnitudeBits / exponentPlace ≤ second.magnitudeBits / exponentPlace :=
    Nat.div_le_div_right less
  have bounded : second.magnitudeBits / exponentPlace < 2048 :=
    Nat.div_lt_of_lt_mul (Nat.mod_lt _ (Nat.succ_pos _))
  have full : first.magnitudeBits / exponentPlace = 2047 := by
    unfold magnitude? at infinite
    dsimp only at infinite
    split at infinite
    next full => exact full
    next => split at infinite <;> cases infinite
  unfold magnitude?
  dsimp only
  rw [if_pos (by omega)]

/-- Bits without the sign bit stand for no number below zero. -/
theorem number_nonneg (sign : word.hasSign = false) : 0 ≤ word.number := by
  unfold number
  rw [sign]
  cases word.magnitude? with
  | none => exact le_top
  | some magnitude =>
      exact WithBot.coe_le_coe.2 (WithTop.coe_le_coe.2 magnitude.value_nonneg)

/-- Bits with the sign bit stand for no number above zero. -/
theorem number_nonpos (sign : word.hasSign = true) : word.number ≤ 0 := by
  unfold number
  rw [sign]
  cases word.magnitude? with
  | none => exact bot_le
  | some magnitude =>
      exact WithBot.coe_le_coe.2 (WithTop.coe_le_coe.2 (neg_nonpos.2 magnitude.value_nonneg))

/-- The total order of the bits is the order of the numbers, with the values that are not
numbers at its ends. -/
theorem number_mono (less : first.rank ≤ second.rank) : first.number ≤ second.number := by
  unfold rank at less
  cases sign : first.hasSign with
  | false =>
      cases signToo : second.hasSign with
      | false =>
          simp only [sign, signToo, Bool.false_eq_true, if_false, Nat.cast_le] at less
          unfold number
          rw [sign, signToo]
          cases finiteToo : second.magnitude? with
          | none => exact le_top
          | some other =>
              cases finite : first.magnitude? with
              | none =>
                  rw [magnitude?_eq_none_of_le less finite] at finiteToo
                  cases finiteToo
              | some magnitude =>
                  have values := value_mono less finite finiteToo
                  exact WithBot.coe_le_coe.2 (WithTop.coe_le_coe.2 values)
      | true =>
          simp only [sign, signToo, Bool.false_eq_true, if_false, if_true] at less
          omega
  | true =>
      cases signToo : second.hasSign with
      | false => exact (number_nonpos sign).trans (number_nonneg signToo)
      | true =>
          have more : second.magnitudeBits ≤ first.magnitudeBits := by
            simp only [sign, signToo, if_true] at less
            omega
          unfold number
          rw [sign, signToo]
          cases finite : first.magnitude? with
          | none => exact bot_le
          | some magnitude =>
              cases finiteToo : second.magnitude? with
              | none =>
                  rw [magnitude?_eq_none_of_le more finiteToo] at finite
                  cases finite
              | some other =>
                  have values := neg_le_neg (value_mono more finiteToo finite)
                  exact WithBot.coe_le_coe.2 (WithTop.coe_le_coe.2 values)

/-- The number of a float is the one that its bits stand for. -/
theorem number?_eq {value : Float} {number : Extended} (stands : number? value = some number) :
    number = (ofFloat value).number := by
  have parts := unpack_toModel value
  have sign := hasSign_eq_true_iff value
  unfold number? at stands
  unfold Binary64.number
  generalize (ofFloat value).hasSign = negative at sign ⊢
  generalize signOf value = side at parts sign
  have sides : side = if negative then .negative else .positive := by
    cases side <;> cases negative <;> simp_all
  cases finite : (ofFloat value).magnitude? with
  | none =>
    rw [finite] at parts
    rcases parts with parts | parts
    · rw [parts, sides] at stands
      cases negative <;> exact (Option.some.inj stands).symm
    · rw [parts] at stands
      cases stands
  | some magnitude =>
    rw [finite] at parts
    rcases parts with ⟨zero, parts⟩ | ⟨canonical, parts⟩
    · rw [parts] at stands
      have nothing : magnitude.value = 0 := by
        rw [Magnitude.value, zero, Nat.cast_zero, zero_mul]
      dsimp only
      rw [nothing, neg_zero, ite_self]
      exact (Option.some.inj stands).symm
    · rw [parts, sides] at stands
      obtain rfl := Option.some.inj stands
      refine congrArg (fun number : ℚ => ((number : WithTop ℚ) : Extended)) ?_
      cases negative
      · exact signed_positive _ _
      · exact signed_negative _ _

/-- A float that is below another one comes first in the total order. -/
theorem rank_lt_of_lt {first second : Float} (less : first < second) :
    (ofFloat first).rank < (ofFloat second).rank := by
  obtain ⟨firstNumber, stands, secondNumber, standsToo, below⟩ := (lt_iff first second).1 less
  rw [number?_eq stands, number?_eq standsToo] at below
  exact lt_of_not_ge fun behind => (number_mono behind).not_gt below

end Order

section Rounding

/-- Rounding up gives the least whole number that the magnitude does not exceed. -/
theorem Magnitude.ceil_le_iff (magnitude : Magnitude) (count : Nat) :
    magnitude.ceil ≤ count ↔ magnitude.value ≤ count := by
  obtain ⟨mantissa, exponent⟩ := magnitude
  unfold Magnitude.ceil Magnitude.value
  dsimp only
  split
  next nonneg =>
    obtain ⟨power, rfl⟩ := Int.eq_ofNat_of_zero_le nonneg
    rw [Int.toNat_natCast, zpow_natCast]
    exact_mod_cast Iff.rfl
  next negative =>
    obtain ⟨power, rfl⟩ : ∃ power : Nat, exponent = -power :=
      ⟨(-exponent).toNat, by omega⟩
    have unit : 0 < 2 ^ power := Nat.two_pow_pos power
    have ratio : (0 : ℚ) < 2 ^ power := by positivity
    rw [neg_neg, Int.toNat_natCast, zpow_neg, zpow_natCast, ← div_eq_mul_inv, div_le_iff₀ ratio]
    change (mantissa + (2 ^ power - 1)) / 2 ^ power ≤ count ↔ _
    rw [Nat.div_le_iff_le_mul_add_pred unit]
    have cast : (mantissa : ℚ) ≤ count * 2 ^ power ↔ mantissa ≤ count * 2 ^ power := by
      exact_mod_cast Iff.rfl
    rw [cast, Nat.mul_comm count]
    omega

/-- Rounding a float up to a word gives the least one that the number of the float does not
exceed, unless that is the greatest word or there is none. -/
theorem ceilWord_le_iff {value : Float} {number : Extended} (stands : number? value = some number)
    {count : Nat} (small : count < greatestWord) :
    ceilWord value ≤ count ↔ number ≤ ((count : ℚ) : WithTop ℚ) := by
  have isNumber : value.isNaN = false := (isNaN_eq_false_iff value).2 ⟨number, stands⟩
  rw [number?_eq stands]
  unfold ceilWord toWord
  rw [isNumber, Bool.false_or]
  cases sign : (ofFloat value).hasSign with
  | true =>
      have counted : (0 : Extended) ≤ ((count : ℚ) : WithTop ℚ) :=
        WithBot.coe_le_coe.2 (WithTop.coe_le_coe.2 (Nat.cast_nonneg count))
      exact iff_of_true (Nat.zero_le _) ((number_nonpos sign).trans counted)
  | false =>
      unfold Binary64.number
      rw [sign]
      cases (ofFloat value).magnitude? with
      | none =>
          refine iff_of_false (Nat.not_le_of_lt small) fun infinite => ?_
          exact WithTop.coe_ne_top (top_le_iff.1 (WithBot.coe_le_coe.1 infinite))
      | some magnitude =>
          dsimp only
          rw [if_neg Bool.false_ne_true, if_neg Bool.false_ne_true, min_le_iff,
            or_iff_right (Nat.not_le_of_lt small), magnitude.ceil_le_iff, WithBot.coe_le_coe,
            WithTop.coe_le_coe]

end Rounding

section Arithmetic

variable {operation : Float → Float → Float} {first second : Binary64}

/-- A value that is not a number stays one when its fraction is marked. -/
theorem isNaN_quiet {word : Binary64} (undefined : word.isNaN = true) :
    word.quiet.isNaN = true := by
  have bits : word.quiet.magnitudeBits =
      word.magnitudeBits ||| 0x8000000000000 % signPlace := by
    unfold magnitudeBits quiet signPlace
    dsimp only
    rw [UInt64.toNat_or]
    exact Nat.or_mod_two_pow (n := 63)
  unfold isNaN at undefined ⊢
  rw [decide_eq_true_iff] at undefined ⊢
  rw [bits]
  exact Nat.lt_of_lt_of_le undefined Nat.left_le_or

/-- Where the result of an operation is a number, it is the one of floating-point arithmetic. -/
theorem toFloat_combine (number : (combine operation first second).isNaN = false) :
    first.isNaN = false ∧ second.isNaN = false ∧
      (combine operation first second).toFloat = operation first.toFloat second.toFloat := by
  unfold combine at number ⊢
  cases undefined : first.isNaN with
  | true =>
      rw [if_pos undefined, isNaN_quiet undefined] at number
      cases number
  | false =>
      cases undefinedToo : second.isNaN with
      | true =>
          rw [undefined, if_neg Bool.false_ne_true, if_pos undefinedToo,
            isNaN_quiet undefinedToo] at number
          cases number
      | false =>
          rw [undefined, undefinedToo, if_neg Bool.false_ne_true, if_neg Bool.false_ne_true]
            at number
          dsimp only at number ⊢
          rw [if_neg Bool.false_ne_true, if_neg Bool.false_ne_true]
          split at number
          next =>
            have absurdity : invalid.isNaN = true := by decide
            rw [absurdity] at number
            cases number
          next valid =>
            rw [if_neg valid]
            exact ⟨rfl, rfl, toFloat_ofFloat _⟩

end Arithmetic

end PoolArbiter.Binary64
