import Mathlib.Data.Nat.Digits.Defs
import PoolArbiter.Search.Sha256

/-!
# The numbers that bytes stand for

Bytes spell a number with the least one first or with the greatest one first, in base 256.
-/

namespace PoolArbiter

/-- The number that bytes stand for, least byte first. -/
def littleEndianValue (bytes : List UInt8) : Nat :=
  Nat.ofDigits 256 (bytes.map (·.toNat))

/-- The number that bytes stand for, greatest byte first. -/
def bigEndianValue (bytes : List UInt8) : Nat :=
  littleEndianValue bytes.reverse

/-- The first byte is the most significant one. -/
theorem bigEndianValue_cons (byte : UInt8) (rest : List UInt8) :
    bigEndianValue (byte :: rest) = bigEndianValue rest + 2 ^ (8 * rest.length) * byte.toNat := by
  rw [bigEndianValue, littleEndianValue, List.reverse_cons, List.map_append, Nat.ofDigits_append,
    List.map_singleton, Nat.ofDigits_singleton, List.length_map, List.length_reverse,
    Nat.pow_mul, bigEndianValue, littleEndianValue]

/-- The value of some bytes fits into them. -/
theorem bigEndianValue_lt (bytes : List UInt8) : bigEndianValue bytes < 2 ^ (8 * bytes.length) := by
  have bounded : ∀ digit ∈ bytes.reverse.map (·.toNat), digit < 256 := by
    intro digit listed
    obtain ⟨byte, _, rfl⟩ := List.mem_map.1 listed
    exact byte.toNat_lt
  have below := Nat.ofDigits_lt_base_pow_length (by decide : 1 < 256) bounded
  rw [List.length_map, List.length_reverse] at below
  rw [Nat.pow_mul]
  exact below

/-- A number is written in as many bytes as asked for. -/
theorem Sha256.length_littleEndian (width number : Nat) :
    (Sha256.littleEndian width number).length = width := by
  induction width generalizing number with
  | zero => rfl
  | succ width inductionHypothesis =>
      rw [Sha256.littleEndian, List.length_cons, inductionHypothesis]

/-- A number that fits is read back from its bytes. -/
theorem littleEndianValue_littleEndian {width number : Nat} (fits : number < 256 ^ width) :
    littleEndianValue (Sha256.littleEndian width number) = number := by
  induction width generalizing number with
  | zero =>
      rw [Nat.pow_zero, Nat.lt_one_iff] at fits
      exact fits.symm
  | succ width inductionHypothesis =>
      have high : number / 256 < 256 ^ width :=
        Nat.div_lt_of_lt_mul (by rwa [Nat.pow_succ'] at fits)
      have rest := inductionHypothesis high
      rw [littleEndianValue] at rest ⊢
      rw [Sha256.littleEndian, List.map_cons, Nat.ofDigits_cons, rest, UInt8.toNat_ofNat']
      exact Nat.mod_add_div number 256

end PoolArbiter
