/-!
# Ranges of candidates

Inclusive ranges of the search space, their order by low end and then high end,
and a test that no two of several ranges overlap.
-/

namespace PoolArbiter

/-- An inclusive range of candidates. -/
structure SearchRange where
  lo : Nat
  hi : Nat
  deriving DecidableEq, Repr

namespace SearchRange

/-- Whether a candidate lies in a range. -/
def Contains (range : SearchRange) (candidate : Nat) : Prop :=
  range.lo ≤ candidate ∧ candidate ≤ range.hi

/-- Order by low end, and by high end where the low ends agree. -/
def precedes (first second : SearchRange) : Bool :=
  first.lo < second.lo || (first.lo == second.lo && first.hi ≤ second.hi)

/-- Whether each range ends before the next one starts. -/
def neighboursApart : List SearchRange → Bool
  | first :: second :: rest =>
      decide (first.hi < second.lo) && neighboursApart (second :: rest)
  | _ => true

/-- Whether ranges lie apart once they are put in order. -/
def allApart (ranges : List SearchRange) : Bool :=
  neighboursApart (ranges.mergeSort precedes)

end SearchRange

end PoolArbiter
