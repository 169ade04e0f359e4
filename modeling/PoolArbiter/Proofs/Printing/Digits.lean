import Mathlib.Algebra.Group.Nat.Defs
import PoolArbiter.Decimal.Notation
import PoolArbiter.Decimal.Reading

/-!
# Digits of a number

The digits of a number and what they are read as. Zeros at the end multiply a number by ten,
zeros in front do not change it.
-/

namespace PoolArbiter

namespace Decimal

/-- The digits of a number are read back as it. -/
theorem foldDigits_digitText (number : Nat) : foldDigits (digitText number) 0 = number :=
  Nat.ofDigitChars_ten_toDigits

/-- Numbers are written in digits. -/
theorem isDigit_of_mem_digitText {number : Nat} {letter : Char}
    (member : letter ∈ digitText number) : letter.isDigit = true :=
  Nat.isDigit_of_mem_toDigits (by decide) (by decide) member

/-- No zero stands in front of other digits. -/
theorem digitText_eq_cons {number : Nat} (positive : 0 < number) :
    ∃ first more, digitText number = first :: more ∧ first ≠ '0' := by
  induction number using Nat.strongRecOn with
  | ind number inductionHypothesis =>
      unfold digitText
      rw [Nat.toDigits_eq_if (by decide)]
      split
      next small =>
        refine ⟨_, _, rfl, ?_⟩
        have checked : ∀ digit < 10, 0 < digit → digit.digitChar ≠ '0' := by decide
        exact checked number small positive
      next large =>
        obtain ⟨first, more, digits, nonzero⟩ :=
          inductionHypothesis (number / 10) (by omega) (by omega)
        unfold digitText at digits
        exact ⟨first, _, by rw [digits]; rfl, nonzero⟩

/-- Digits are read from the front to the back. -/
theorem foldDigits_append (front back : List Char) (start : Nat) :
    foldDigits (front ++ back) start = foldDigits back (foldDigits front start) :=
  List.foldl_append

/-- Every further zero multiplies by ten. -/
theorem foldDigits_zeros (count start : Nat) :
    foldDigits (List.replicate count '0') start = start * 10 ^ count := by
  induction count generalizing start with
  | zero => exact (Nat.mul_one start).symm
  | succ count inductionHypothesis =>
      have zero : '0'.toNat - '0'.toNat = 0 := rfl
      rw [List.replicate_succ]
      unfold foldDigits at inductionHypothesis ⊢
      rw [List.foldl_cons, zero, Nat.add_zero, inductionHypothesis, Nat.pow_succ,
        Nat.mul_comm 10 start, Nat.mul_assoc, Nat.mul_comm 10]

/-- A number has no more decimal digits than binary ones. -/
theorem digitCount_le {number limit : Nat} (positive : 0 < limit) (small : number < 2 ^ limit) :
    digitCount number ≤ limit := by
  have power : 2 ^ limit ≤ 10 ^ limit := Nat.pow_le_pow_left (by decide) limit
  exact (Nat.length_toDigits_le_iff (by decide) positive).2 (Nat.lt_of_lt_of_le small power)

end Decimal

end PoolArbiter
