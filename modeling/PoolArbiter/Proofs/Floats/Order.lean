import PoolArbiter.Proofs.Printing.Floats

/-!
# The numbers behind floats

A float that is a number stands for a rational number or for one of the two infinities.
`Unpacking.number?` is this number, and `Unpacking.lt_iff` and `Unpacking.le_iff` say that a
comparison of floats holds exactly if both are numbers in this order.
-/

namespace PoolArbiter

open Float.Model (UnpackedFloat)
open Float.Model.UnpackedFloat

namespace Unpacking

/-- The rational numbers with an infinity at either end. -/
abbrev Extended :=
  WithBot (WithTop ℚ)

/-- The number that parts with a sign stand for. -/
def signed (sign : Sign) (mantissa : Nat) (exponent : Int) : ℚ :=
  sign.apply mantissa * 2 ^ exponent

/-- The number that the parts of a float stand for. -/
def numberOf? : UnpackedFloat → Option Extended
  | .notANumber => none
  | .infinity .positive => some ⊤
  | .infinity .negative => some ⊥
  | .zero _ => some 0
  | .finite sign mantissa exponent _ => some ((signed sign mantissa exponent : ℚ) : WithTop ℚ)

/-- The number that a float stands for. -/
def number? (value : Float) : Option Extended :=
  numberOf? value.toModel.unpack

section Comparison

variable {mantissa other : Nat} {exponent otherExponent : Int}

/-- The positive sign keeps the number. -/
theorem signed_positive (mantissa : Nat) (exponent : Int) :
    signed .positive mantissa exponent = mantissa * 2 ^ exponent := by
  simp [signed, Sign.apply]

/-- The negative sign turns the number around. -/
theorem signed_negative (mantissa : Nat) (exponent : Int) :
    signed .negative mantissa exponent = -(mantissa * 2 ^ exponent) := by
  simp [signed, Sign.apply]

/-- Positive numbers are above zero. -/
theorem signed_pos (positive : 0 < mantissa) (exponent : Int) :
    0 < signed .positive mantissa exponent := by
  have ratio : (0 : ℚ) < mantissa := by exact_mod_cast positive
  rw [signed_positive]
  positivity

/-- Negative numbers are below zero. -/
theorem signed_neg (positive : 0 < mantissa) (exponent : Int) :
    signed .negative mantissa exponent < 0 := by
  have above := signed_pos positive exponent
  rw [signed_positive] at above
  rw [signed_negative]
  linarith

/-- Of canonical parts those with the greater exponent stand for the greater number. -/
theorem IsCanonical.lt_of_exponent_lt (canonical : IsCanonical mantissa exponent)
    (canonicalOther : IsCanonical other otherExponent) (less : exponent < otherExponent) :
    (mantissa : ℚ) * 2 ^ exponent < other * 2 ^ otherExponent := by
  have full : 2 ^ 52 ≤ other := by
    have above := canonical.le_exponent
    exact canonicalOther.full.resolve_right (by omega)
  have small : (mantissa : ℚ) < 2 ^ (53 : Int) := by exact_mod_cast canonical.mantissa_lt
  have large : (2 : ℚ) ^ (52 : Int) ≤ other := by exact_mod_cast full
  have power : (0 : ℚ) < 2 ^ exponent := zpow_pos (by norm_num) _
  have powerOther : (0 : ℚ) < 2 ^ otherExponent := zpow_pos (by norm_num) _
  calc (mantissa : ℚ) * 2 ^ exponent
      < 2 ^ (53 : Int) * 2 ^ exponent := mul_lt_mul_of_pos_right small power
    _ = 2 ^ (53 + exponent) := (zpow_add₀ (by norm_num) _ _).symm
    _ ≤ 2 ^ (52 + otherExponent) := zpow_le_zpow_right₀ (by norm_num) (by omega)
    _ = 2 ^ (52 : Int) * 2 ^ otherExponent := zpow_add₀ (by norm_num) _ _
    _ ≤ other * 2 ^ otherExponent := mul_le_mul_of_nonneg_right large powerOther.le

/-- Canonical parts are compared by their exponents first. -/
theorem IsCanonical.compare_eq (canonical : IsCanonical mantissa exponent)
    (canonicalOther : IsCanonical other otherExponent) :
    (compare exponent otherExponent).then (compare mantissa other) =
      cmp ((mantissa : ℚ) * 2 ^ exponent) (other * 2 ^ otherExponent) := by
  rcases Int.lt_trichotomy exponent otherExponent with less | rfl | more
  · rw [Int.compare_eq_lt.2 less, (cmp_eq_lt_iff _ _).2
      (canonical.lt_of_exponent_lt canonicalOther less)]
    rfl
  · have power : (0 : ℚ) < 2 ^ exponent := zpow_pos (by norm_num) _
    rw [Int.compare_eq_eq.2 rfl, cmp_mul_pos_right power]
    rcases Nat.lt_trichotomy mantissa other with less | rfl | more
    · rw [Nat.compare_eq_lt.2 less, (cmp_eq_lt_iff _ _).2 (by exact_mod_cast less)]
      rfl
    · rw [Nat.compare_eq_eq.2 rfl, (cmp_eq_eq_iff _ _).2 rfl]
      rfl
    · rw [Nat.compare_eq_gt.2 more, (cmp_eq_gt_iff _ _).2 (by exact_mod_cast more)]
      rfl
  · rw [Int.compare_eq_gt.2 more, (cmp_eq_gt_iff _ _).2
      (canonicalOther.lt_of_exponent_lt canonical more)]
    rfl

/-- Finite parts compare as their numbers do. -/
theorem IsCanonical.compare_finite (canonical : IsCanonical mantissa exponent)
    (canonicalOther : IsCanonical other otherExponent) (sign otherSign : Sign) :
    (UnpackedFloat.finite sign mantissa exponent canonical.positive).compare
        (.finite otherSign other otherExponent canonicalOther.positive) =
      some (cmp (signed sign mantissa exponent) (signed otherSign other otherExponent)) := by
  cases sign with
  | positive =>
      cases otherSign with
      | positive =>
          rw [signed_positive, signed_positive, ← canonical.compare_eq canonicalOther]
          rfl
      | negative =>
          rw [(cmp_eq_gt_iff _ _).2 ((signed_neg canonicalOther.positive _).trans
            (signed_pos canonical.positive _))]
          rfl
  | negative =>
      cases otherSign with
      | positive =>
          rw [(cmp_eq_lt_iff _ _).2 ((signed_neg canonical.positive _).trans
            (signed_pos canonicalOther.positive _))]
          rfl
      | negative =>
          have descending : StrictAnti fun value : ℚ => -value := fun _ _ => neg_lt_neg
          rw [signed_negative, signed_negative, descending.cmp_map_eq, ← cmp_swap,
            ← canonical.compare_eq canonicalOther]
          rfl

/-- A zero compares with finite parts as the number zero does. -/
theorem IsCanonical.compare_zero_finite (canonical : IsCanonical mantissa exponent)
    (zeroSign sign : Sign) :
    (UnpackedFloat.zero zeroSign).compare
        (.finite sign mantissa exponent canonical.positive) =
      some (cmp 0 (signed sign mantissa exponent)) := by
  cases sign with
  | positive =>
      rw [(cmp_eq_lt_iff _ _).2 (signed_pos canonical.positive _)]
      rfl
  | negative =>
      rw [(cmp_eq_gt_iff _ _).2 (signed_neg canonical.positive _)]
      rfl

/-- A finite float compares with zero like its number. -/
theorem IsCanonical.compare_finite_zero (canonical : IsCanonical mantissa exponent)
    (sign zeroSign : Sign) :
    (UnpackedFloat.finite sign mantissa exponent canonical.positive).compare
        (.zero zeroSign) =
      some (cmp (signed sign mantissa exponent) 0) := by
  cases sign with
  | positive =>
      rw [(cmp_eq_gt_iff _ _).2 (signed_pos canonical.positive _)]
      rfl
  | negative =>
      rw [(cmp_eq_lt_iff _ _).2 (signed_neg canonical.positive _)]
      rfl

end Comparison

section Numbers

/-- The parts of a float that stands for a rational number. -/
inductive IsRational : UnpackedFloat → ℚ → Prop where
  | zero (sign : Sign) : IsRational (.zero sign) 0
  | finite {mantissa : Nat} {exponent : Int} (sign : Sign)
      (canonical : IsCanonical mantissa exponent) :
      IsRational (.finite sign mantissa exponent canonical.positive)
        (signed sign mantissa exponent)

/-- Rational parts compare as their numbers do. -/
theorem IsRational.compare_eq {first second : UnpackedFloat} {firstNumber secondNumber : ℚ}
    (rational : IsRational first firstNumber) (other : IsRational second secondNumber) :
    first.compare second = some (cmp firstNumber secondNumber) := by
  cases rational with
  | zero sign =>
      cases other with
      | zero otherSign =>
          rw [cmp_self_eq_eq]
          rfl
      | finite otherSign canonical => exact canonical.compare_zero_finite sign otherSign
  | finite sign canonical =>
      cases other with
      | zero otherSign => exact canonical.compare_finite_zero sign otherSign
      | finite otherSign canonicalOther =>
          exact canonical.compare_finite canonicalOther sign otherSign

/-- The parts of a float that stands for a number. -/
inductive IsNumber : UnpackedFloat → Extended → Prop where
  | above : IsNumber (.infinity .positive) ⊤
  | below : IsNumber (.infinity .negative) ⊥
  | rational {parts : UnpackedFloat} {number : ℚ} (rational : IsRational parts number) :
      IsNumber parts (number : WithTop ℚ)

/-- Numbers compare alike among the extended ones. -/
theorem cmp_coe (first second : ℚ) :
    cmp ((first : WithTop ℚ) : Extended) ((second : WithTop ℚ) : Extended) =
      cmp first second :=
  (WithBot.coe_strictMono.comp WithTop.coe_strictMono).cmp_map_eq first second

/-- Parts that are numbers compare as their numbers do. -/
theorem IsNumber.compare_eq {first second : UnpackedFloat}
    {firstNumber secondNumber : Extended} (parts : IsNumber first firstNumber)
    (others : IsNumber second secondNumber) :
    first.compare second = some (cmp firstNumber secondNumber) := by
  cases parts with
  | above =>
      cases others with
      | above => rw [cmp_self_eq_eq]; rfl
      | below => rw [(cmp_eq_gt_iff _ _).2 bot_lt_top]; rfl
      | rational other =>
          rw [(cmp_eq_gt_iff _ _).2 (WithBot.coe_lt_coe.2 (WithTop.coe_lt_top _))]
          cases other <;> rfl
  | below =>
      cases others with
      | above => rw [(cmp_eq_lt_iff _ _).2 bot_lt_top]; rfl
      | below => rw [cmp_self_eq_eq]; rfl
      | rational other =>
          rw [(cmp_eq_lt_iff _ _).2 (WithBot.bot_lt_coe _)]
          cases other <;> rfl
  | rational rational =>
      cases others with
      | above =>
          rw [(cmp_eq_lt_iff _ _).2 (WithBot.coe_lt_coe.2 (WithTop.coe_lt_top _))]
          cases rational <;> rfl
      | below =>
          rw [(cmp_eq_gt_iff _ _).2 (WithBot.bot_lt_coe _)]
          cases rational <;> rfl
      | rational other => rw [cmp_coe, rational.compare_eq other]

/-- A float that is a number has the parts of its number. -/
theorem isNumber_of_number? {value : Float} {number : Extended}
    (stands : number? value = some number) : IsNumber value.toModel.unpack number := by
  unfold number? at stands
  cases undefined : value.isNaN with
  | true =>
      have same : value.isNaN = value.toModel.unpack.isNaN := rfl
      rw [same] at undefined
      generalize value.toModel.unpack = parts at undefined stands
      cases parts with
      | notANumber => cases stands
      | infinity => cases undefined
      | zero => cases undefined
      | finite => cases undefined
  | false =>
      rcases unpack_of_number undefined with parts | parts | ⟨_, _, canonical, parts⟩
      · rw [parts] at stands ⊢
        cases sign : signOf value with
        | positive =>
            rw [sign] at stands
            cases stands
            exact .above
        | negative =>
            rw [sign] at stands
            cases stands
            exact .below
      · rw [parts] at stands ⊢
        cases stands
        exact .rational (.zero _)
      · rw [parts] at stands ⊢
        cases stands
        exact .rational (.finite _ canonical)

/-- A float stands for a number unless it is not a number. -/
theorem number?_eq_none_iff (value : Float) : number? value = none ↔ value.isNaN = true := by
  have same : value.isNaN = value.toModel.unpack.isNaN := rfl
  rw [same]
  unfold number?
  generalize value.toModel.unpack = parts
  cases parts with
  | notANumber => simp [numberOf?, UnpackedFloat.isNaN]
  | infinity sign => cases sign <;> simp [numberOf?, UnpackedFloat.isNaN]
  | zero => simp [numberOf?, UnpackedFloat.isNaN]
  | finite => simp [numberOf?, UnpackedFloat.isNaN]

/-- A value that is not a number compares with nothing. -/
theorem compare_of_isNaN {first second : Float}
    (undefined : first.isNaN = true ∨ second.isNaN = true) :
    first.toModel.unpack.compare second.toModel.unpack = none := by
  have firstSame : first.isNaN = first.toModel.unpack.isNaN := rfl
  have secondSame : second.isNaN = second.toModel.unpack.isNaN := rfl
  rw [firstSame, secondSame] at undefined
  generalize first.toModel.unpack = parts, second.toModel.unpack = others at undefined ⊢
  cases parts <;> cases others <;> first | rfl | simp [UnpackedFloat.isNaN] at undefined

/-- A comparison of floats tells the order of their numbers. -/
theorem compare_eq_some_iff (first second : Float) (order : Ordering) :
    first.toModel.unpack.compare second.toModel.unpack = some order ↔
      ∃ firstNumber ∈ number? first, ∃ secondNumber ∈ number? second,
        cmp firstNumber secondNumber = order := by
  cases stands : number? first with
  | none =>
      rw [compare_of_isNaN (.inl ((number?_eq_none_iff first).1 stands))]
      simp
  | some firstNumber =>
      cases standsToo : number? second with
      | none =>
          rw [compare_of_isNaN (.inr ((number?_eq_none_iff second).1 standsToo))]
          simp
      | some secondNumber =>
          rw [(isNumber_of_number? stands).compare_eq (isNumber_of_number? standsToo)]
          simp

/-- One float is below another if both are numbers in this order. -/
theorem lt_iff (first second : Float) :
    first < second ↔
      ∃ firstNumber ∈ number? first, ∃ secondNumber ∈ number? second,
        firstNumber < secondNumber := by
  have test : first < second ↔
      first.toModel.unpack.compare second.toModel.unpack = some .lt := by
    have same : first.lt second =
        (first.toModel.unpack.compare second.toModel.unpack == some .lt) := Bool.decide_eq_true
    change first.lt second = true ↔ _
    rw [same]
    exact beq_iff_eq
  simp only [test, compare_eq_some_iff, cmp_eq_lt_iff]

/-- One float is at most another if both are numbers in this order. -/
theorem le_iff (first second : Float) :
    first ≤ second ↔
      ∃ firstNumber ∈ number? first, ∃ secondNumber ∈ number? second,
        firstNumber ≤ secondNumber := by
  have test : first ≤ second ↔
      first.toModel.unpack.compare second.toModel.unpack = some .lt ∨
        first.toModel.unpack.compare second.toModel.unpack = some .eq := by
    have same : first.le second =
        (first.toModel.unpack.compare second.toModel.unpack).any (·.isLE) := Bool.decide_eq_true
    change first.le second = true ↔ _
    rw [same]
    cases first.toModel.unpack.compare second.toModel.unpack with
    | none => simp
    | some order => cases order <;> simp
  simp only [test, compare_eq_some_iff, cmp_eq_lt_iff, cmp_eq_eq_iff, le_iff_lt_or_eq]
  constructor
  · rintro (⟨firstNumber, stands, secondNumber, standsToo, less⟩ |
      ⟨firstNumber, stands, secondNumber, standsToo, same⟩)
    · exact ⟨firstNumber, stands, secondNumber, standsToo, .inl less⟩
    · exact ⟨firstNumber, stands, secondNumber, standsToo, .inr same⟩
  · rintro ⟨firstNumber, stands, secondNumber, standsToo, less | same⟩
    · exact .inl ⟨firstNumber, stands, secondNumber, standsToo, less⟩
    · exact .inr ⟨firstNumber, stands, secondNumber, standsToo, same⟩

/-- Exactly the floats that are not NaN stand for extended numbers. -/
theorem isNaN_eq_false_iff (value : Float) :
    value.isNaN = false ↔ ∃ number, number? value = some number := by
  rw [← Option.ne_none_iff_exists', ne_eq, number?_eq_none_iff, Bool.not_eq_true]

/-- Of two floats that are numbers one is below the other unless the other is at most it. -/
theorem lt_iff_not_le (first second : Float) :
    first < second ↔ first.isNaN = false ∧ second.isNaN = false ∧ ¬second ≤ first := by
  rw [lt_iff, le_iff, isNaN_eq_false_iff, isNaN_eq_false_iff]
  cases number? first <;> cases number? second <;> simp

/-- Of two floats that are numbers one is at most the other unless the other is below it. -/
theorem le_iff_not_lt (first second : Float) :
    first ≤ second ↔ first.isNaN = false ∧ second.isNaN = false ∧ ¬second < first := by
  rw [le_iff, lt_iff, isNaN_eq_false_iff, isNaN_eq_false_iff]
  cases number? first <;> cases number? second <;> simp

/-- The float zero stands for 0. -/
theorem number?_zero : number? 0 = some 0 :=
  rfl

/-- The float one stands for 1. -/
theorem number?_one : number? 1 = some 1 := by
  have parts : (1 : Float).toModel.unpack =
      .finite .positive (2 ^ 52) (-52) (by decide) := rfl
  rw [number?, parts, numberOf?, signed_positive]
  norm_num

/-- The float one hundred stands for 100. -/
theorem number?_hundred : number? 100 = some 100 := by
  have parts : (100 : Float).toModel.unpack =
      .finite .positive (25 * 2 ^ 48) (-46) (by decide) := rfl
  rw [number?, parts, numberOf?, signed_positive]
  norm_num

/-- A float stands for a number above zero if it is a number and not at most zero. -/
theorem exists_pos_iff (value : Float) :
    (∃ number ∈ number? value, 0 < number) ↔ value.isNaN = false ∧ ¬value ≤ 0 := by
  have zero : (0 : Float).isNaN = false := rfl
  have above : 0 < value ↔ ∃ number ∈ number? value, 0 < number := by
    simp [lt_iff, number?_zero]
  rw [← above, lt_iff_not_le]
  exact and_iff_right zero

/-- A float stands for a number from zero on if it is a number and not below zero. -/
theorem exists_nonneg_iff (value : Float) :
    (∃ number ∈ number? value, 0 ≤ number) ↔ value.isNaN = false ∧ ¬value < 0 := by
  have zero : (0 : Float).isNaN = false := rfl
  have atLeast : 0 ≤ value ↔ ∃ number ∈ number? value, 0 ≤ number := by
    simp [le_iff, number?_zero]
  rw [← atLeast, le_iff_not_lt]
  exact and_iff_right zero

/-- Of two floats that are numbers the first is below if the second is not at most it. -/
theorem exists_lt_iff (first second : Float) :
    (∃ firstNumber ∈ number? first, ∃ secondNumber ∈ number? second,
        firstNumber < secondNumber) ↔
      first.isNaN = false ∧ second.isNaN = false ∧ ¬second ≤ first := by
  rw [← lt_iff, lt_iff_not_le]

end Numbers

end Unpacking

end PoolArbiter
