import PoolArbiter.Binary64

/-!
# Sums in machine words

A sum is computed in a word of 64 bits. One that is too large for a word starts over from
zero.
-/

namespace PoolArbiter.Word

/-- What a word holds of a number. -/
def wrap (value : Nat) : Nat :=
  value % (Binary64.greatestWord + 1)

/-- A word holds a number up to the greatest one as it is. -/
theorem wrap_eq_self {value : Nat} (fits : value ≤ Binary64.greatestWord) : wrap value = value :=
  Nat.mod_eq_of_lt (Nat.lt_succ_of_le fits)

/-- Starting over never makes a number larger. -/
theorem wrap_le (value : Nat) : wrap value ≤ value :=
  Nat.mod_le _ _

/-- Whatever a word holds is at most the greatest word. -/
theorem wrap_le_greatestWord (value : Nat) : wrap value ≤ Binary64.greatestWord :=
  Nat.le_of_lt_succ (Nat.mod_lt _ (Nat.succ_pos _))

/-- The sum of two words starts over at most once, and is then below both of them. -/
theorem wrap_add_of_lt {first second : Nat} (firstFits : first ≤ Binary64.greatestWord)
    (secondFits : second ≤ Binary64.greatestWord)
    (exceeds : Binary64.greatestWord < first + second) :
    wrap (first + second) + (Binary64.greatestWord + 1) = first + second := by
  have once : (first + second) % (Binary64.greatestWord + 1) =
      first + second - (Binary64.greatestWord + 1) := by
    rw [Nat.mod_eq_sub_mod exceeds]
    exact Nat.mod_eq_of_lt (by omega)
  unfold wrap
  omega

end PoolArbiter.Word
