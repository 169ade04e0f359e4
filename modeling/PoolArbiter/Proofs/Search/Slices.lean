import Mathlib.Algebra.Order.Ring.Nat
import Mathlib.Logic.ExistsUnique
import PoolArbiter.Worker.Pool

/-!
# Slices of the search space

A partitioned space with at least as many candidates as workers falls into one slice
for each worker. The slices stand in the order of the workers, each ends before the next
one starts, and the last one takes the remainder of the division. `rangeInWords?`
computes a slice with 64-bit words and gives up where a result does not fit; it never
does.
-/

namespace PoolArbiter

namespace Word

/-- A number, if a 64-bit word holds it. -/
def fit? (value : Nat) : Option Nat :=
  if value ≤ Binary64.greatestWord then some value else none

/-- A difference, if it is not below zero. -/
def minus? (value less : Nat) : Option Nat :=
  if less ≤ value then some (value - less) else none

/-- A quotient, if the divisor is not zero. -/
def over? (value divisor : Nat) : Option Nat :=
  if divisor = 0 then none else some (value / divisor)

/-- A value that fits is the word. -/
theorem fit?_eq_some {value : Nat} (fits : value ≤ Binary64.greatestWord) :
    fit? value = some value :=
  if_pos fits

/-- Words are exactly the values that fit. -/
theorem fit?_eq_some_iff {value word : Nat} :
    fit? value = some word ↔ value ≤ Binary64.greatestWord ∧ value = word := by
  simp [fit?]

/-- Subtracting no more than there is gives a word. -/
theorem minus?_eq_some {value less : Nat} (below : less ≤ value) :
    minus? value less = some (value - less) :=
  if_pos below

/-- Dividing by a positive word gives a word. -/
theorem over?_eq_some {value divisor : Nat} (positive : 0 < divisor) :
    over? value divisor = some (value / divisor) :=
  if_neg (Nat.ne_of_gt positive)

end Word

namespace WorkerPool

/-- The slice of a worker computed with 64-bit words, if every operand and every result
is one. -/
def rangeInWords? (pool : WorkerPool) (worker : WorkerId) : Option SearchRange := do
  let space ← Word.fit? pool.searchSpace
  if !pool.partitioned || pool.slots.isEmpty then
    return ⟨0, space - 1⟩
  let workers ← Word.fit? pool.size
  let span ← Word.over? space workers
  let number ← Word.fit? worker
  let lo ← Word.fit? (number * span)
  let next ← Word.fit? (number + 1)
  if next = workers then
    return ⟨lo, ← Word.minus? space 1⟩
  else
    return ⟨lo, ← Word.minus? (← Word.fit? (lo + span)) 1⟩

/-- The space is partitioned among workers, and it has a candidate for each of them. -/
structure Sliced (pool : WorkerPool) : Prop where
  partitioned : pool.partitioned = true
  manned : 0 < pool.size
  roomy : pool.size ≤ pool.searchSpace

/-- Number of candidates in a slice other than the last one. -/
def span (pool : WorkerPool) : Nat :=
  pool.searchSpace / pool.size

namespace Sliced

variable {pool : WorkerPool} {worker other : Nat}

/-- The slices are not empty. -/
theorem span_pos (sliced : pool.Sliced) : 0 < pool.span :=
  Nat.div_pos sliced.roomy sliced.manned

/-- A sliced pool has workers. -/
theorem not_isEmpty (sliced : pool.Sliced) : pool.slots.isEmpty = false := by
  have manned := sliced.manned
  rw [size] at manned
  simpa [List.isEmpty_eq_false_iff] using List.ne_nil_of_length_pos manned

/-- The range of a worker: its slice, and for the last worker all that is left. -/
theorem rangeFor_eq (sliced : pool.Sliced) (worker : Nat) :
    pool.rangeFor worker =
      if worker + 1 = pool.size then ⟨worker * pool.span, pool.searchSpace - 1⟩
      else ⟨worker * pool.span, worker * pool.span + pool.span - 1⟩ := by
  simp [rangeFor, sliced.partitioned, sliced.not_isEmpty, span]

/-- Every range starts with its slice. -/
theorem lo_rangeFor (sliced : pool.Sliced) (worker : Nat) :
    (pool.rangeFor worker).lo = worker * pool.span := by
  rw [sliced.rangeFor_eq]
  split <;> rfl

/-- The spans up to a worker fit into the space. -/
theorem mul_span_le (inside : worker < pool.size) :
    worker * pool.span + pool.span ≤ pool.searchSpace := by
  calc worker * pool.span + pool.span
      = (worker + 1) * pool.span := (Nat.succ_mul _ _).symm
    _ ≤ pool.size * pool.span := Nat.mul_le_mul_right _ inside
    _ ≤ pool.searchSpace := Nat.mul_div_le _ _

/-- A slice ends at its own span, or it is the last one and ends with the space. -/
theorem hi_rangeFor (sliced : pool.Sliced) (worker : Nat) :
    (pool.rangeFor worker).hi =
      if worker + 1 = pool.size then pool.searchSpace - 1
      else worker * pool.span + pool.span - 1 := by
  rw [sliced.rangeFor_eq]
  split <;> rfl

/-- No range is empty. -/
theorem lo_le_hi (sliced : pool.Sliced) (inside : worker < pool.size) :
    (pool.rangeFor worker).lo ≤ (pool.rangeFor worker).hi := by
  have positive := sliced.span_pos
  have fits := mul_span_le inside
  rw [sliced.lo_rangeFor, sliced.hi_rangeFor]
  split <;> omega

/-- Every range ends within the search space. -/
theorem hi_lt_searchSpace (sliced : pool.Sliced) (inside : worker < pool.size) :
    (pool.rangeFor worker).hi < pool.searchSpace := by
  have positive := sliced.span_pos
  have fits := mul_span_le inside
  rw [sliced.hi_rangeFor]
  split <;> omega

/-- The slice of a worker ends before that of a later worker starts. -/
theorem hi_lt_lo (sliced : pool.Sliced) (earlier : worker < other) (inside : other < pool.size) :
    (pool.rangeFor worker).hi < (pool.rangeFor other).lo := by
  have positive := sliced.span_pos
  have steps : worker * pool.span + pool.span ≤ other * pool.span := by
    rw [← Nat.succ_mul]
    exact Nat.mul_le_mul_right _ earlier
  have notLast : worker + 1 ≠ pool.size := Nat.ne_of_lt (Nat.lt_of_le_of_lt earlier inside)
  rw [sliced.lo_rangeFor, sliced.hi_rangeFor, if_neg notLast]
  omega

/-- A candidate lies in the slice of one worker. -/
theorem exists_contains (sliced : pool.Sliced) {candidate : Nat}
    (inside : candidate < pool.searchSpace) :
    ∃ worker : Nat, worker < pool.size ∧ (pool.rangeFor worker).Contains candidate := by
  have positive := sliced.span_pos
  have manned := sliced.manned
  by_cases early : candidate / pool.span + 1 < pool.size
  · refine ⟨candidate / pool.span, Nat.lt_of_succ_lt early, ?_⟩
    have below : candidate / pool.span * pool.span ≤ candidate := Nat.div_mul_le_self _ _
    have above : candidate < candidate / pool.span * pool.span + pool.span :=
      Nat.lt_div_mul_add positive
    rw [SearchRange.Contains, sliced.lo_rangeFor, sliced.hi_rangeFor, if_neg (Nat.ne_of_lt early)]
    omega
  · -- The candidate lies in the last span or in the remainder behind it.
    refine ⟨pool.size - 1, by omega, ?_⟩
    have late : (pool.size - 1) * pool.span ≤ candidate :=
      Nat.mul_le_of_le_div _ _ _ (by omega)
    rw [SearchRange.Contains, sliced.lo_rangeFor, sliced.hi_rangeFor, if_pos (by omega)]
    omega

/-- Every candidate is searched by exactly one worker. -/
theorem existsUnique_contains (sliced : pool.Sliced) {candidate : Nat}
    (inside : candidate < pool.searchSpace) :
    ∃! worker, worker < pool.size ∧ (pool.rangeFor worker).Contains candidate := by
  obtain ⟨worker, numbered, contains⟩ := sliced.exists_contains inside
  refine ⟨worker, ⟨numbered, contains⟩, ?_⟩
  rintro other ⟨otherNumbered, otherContains⟩
  rcases Nat.lt_trichotomy other worker with earlier | same | later
  · have apart := sliced.hi_lt_lo earlier numbered
    exact absurd (Nat.le_trans contains.1 otherContains.2) (Nat.not_le_of_lt apart)
  · exact same
  · have apart := sliced.hi_lt_lo later otherNumbered
    exact absurd (Nat.le_trans otherContains.1 contains.2) (Nat.not_le_of_lt apart)

/-- No operation leaves the 64-bit words. -/
theorem rangeInWords?_eq (sliced : pool.Sliced) (word : pool.searchSpace ≤ Binary64.greatestWord)
    (inside : worker < pool.size) :
    pool.rangeInWords? worker = some (pool.rangeFor worker) := by
  have positive := sliced.span_pos
  have fits := mul_span_le inside
  have roomy := sliced.roomy
  have space := Word.fit?_eq_some word
  have workers := Word.fit?_eq_some (roomy.trans word)
  have quotient : Word.over? pool.searchSpace pool.size = some pool.span :=
    Word.over?_eq_some sliced.manned
  have number := Word.fit?_eq_some (inside.le.trans (roomy.trans word))
  have lo : Word.fit? (worker * pool.span) = some (worker * pool.span) :=
    Word.fit?_eq_some (by omega)
  have next : Word.fit? (worker + 1) = some (worker + 1) := Word.fit?_eq_some (by omega)
  have ends : Word.fit? (worker * pool.span + pool.span) = some (worker * pool.span + pool.span) :=
    Word.fit?_eq_some (by omega)
  have last : Word.minus? pool.searchSpace 1 = some (pool.searchSpace - 1) :=
    Word.minus?_eq_some (by omega)
  have before : Word.minus? (worker * pool.span + pool.span) 1 =
      some (worker * pool.span + pool.span - 1) :=
    Word.minus?_eq_some (by omega)
  rw [sliced.rangeFor_eq]
  simp only [rangeInWords?, space, sliced.partitioned, sliced.not_isEmpty, workers, quotient,
    number, lo, next, ends, last, before, Bool.not_true, Bool.or_self, Option.bind_eq_bind,
    Option.bind_some, Bool.false_eq_true, if_false, Option.pure_def]
  split <;> rfl

end Sliced

end WorkerPool

end PoolArbiter
