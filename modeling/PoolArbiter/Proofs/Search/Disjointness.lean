import PoolArbiter.Proofs.Search.Partition

/-!
# The test for disjoint ranges

The pool puts the ranges of the workers at work in order and compares each with the next
one. For ranges that are not empty this finds every overlap and no others
(`WorkerPool.rangesApart_iff`), also where ranges are equal, nested or meet in one
candidate, and whichever way they are put in order.
-/

namespace PoolArbiter

namespace SearchRange

variable {first second : SearchRange} {ranges : List SearchRange}

/-- No candidate lies in both ranges. -/
def Apart (first second : SearchRange) : Prop :=
  ∀ candidate, ¬(first.Contains candidate ∧ second.Contains candidate)

/-- It does not matter which of two ranges comes first. -/
theorem Apart.symm (apart : first.Apart second) : second.Apart first :=
  fun candidate both => apart candidate both.symm

/-- A range that ends before another one starts is apart from it. -/
theorem apart_of_hi_lt_lo (before : first.hi < second.lo) : first.Apart second := by
  rintro candidate ⟨inFirst, inSecond⟩
  have overlap : second.lo ≤ first.hi := inSecond.1.trans inFirst.2
  exact absurd before (Nat.not_lt_of_le overlap)

/-- Ranges are ordered by their starts, and then by their ends. -/
theorem precedes_iff :
    first.precedes second = true ↔
      first.lo < second.lo ∨ first.lo = second.lo ∧ first.hi ≤ second.hi := by
  simp [precedes]

/-- A range that precedes another one does not start after it. -/
theorem lo_le_lo_of_precedes (ordered : first.precedes second = true) :
    first.lo ≤ second.lo := by
  rcases precedes_iff.1 ordered with earlier | ⟨same, _⟩
  · exact earlier.le
  · exact same.le

/-- The order of the ranges is transitive. -/
theorem precedes_trans (first second third : SearchRange) (start : first.precedes second = true)
    (rest : second.precedes third = true) : first.precedes third = true := by
  rw [precedes_iff] at *
  omega

/-- Of two ranges one precedes the other. -/
theorem precedes_total (first second : SearchRange) :
    (first.precedes second || second.precedes first) = true := by
  rw [Bool.or_eq_true, precedes_iff, precedes_iff]
  omega

/-- A later range that shares no candidate starts behind the end of the earlier one: otherwise
its own low end would lie in both. -/
theorem Apart.hi_lt_lo (apart : first.Apart second) (ordered : first.precedes second = true)
    (nonempty : second.lo ≤ second.hi) : first.hi < second.lo := by
  by_contra overlap
  have inFirst : first.Contains second.lo :=
    ⟨lo_le_lo_of_precedes ordered, Nat.le_of_not_lt overlap⟩
  exact apart second.lo ⟨inFirst, Nat.le_refl _, nonempty⟩

/-- Ranges that each end before the next one starts end before all later ones start: no range
in between is empty. -/
theorem pairwise_of_neighboursApart (nonempty : ∀ range ∈ ranges, range.lo ≤ range.hi)
    (tested : neighboursApart ranges = true) :
    ranges.Pairwise fun first second => first.hi < second.lo := by
  fun_induction neighboursApart ranges with
  | case1 first second rest inductionHypothesis =>
      obtain ⟨next, later⟩ := Bool.and_eq_true_iff.1 tested
      have tail := inductionHypothesis
        (fun range member => nonempty range (List.mem_cons_of_mem _ member)) later
      have before : first.hi < second.lo := of_decide_eq_true next
      refine List.pairwise_cons.2 ⟨fun range member => ?_, tail⟩
      rcases List.mem_cons.1 member with rfl | behind
      · exact before
      · calc first.hi < second.lo := before
          _ ≤ second.hi := nonempty second (List.mem_cons_of_mem _ List.mem_cons_self)
          _ < range.lo := (List.pairwise_cons.1 tail).1 range behind
  | case2 ranges short =>
      cases ranges with
      | nil => exact .nil
      | cons first rest =>
          cases rest with
          | nil => exact List.pairwise_singleton _ _
          | cons second rest => exact absurd rfl (short first second rest)

/-- Once ranges are in order, comparing neighbours decides about all pairs. -/
theorem neighboursApart_iff (nonempty : ∀ range ∈ ranges, range.lo ≤ range.hi)
    (ordered : ranges.Pairwise fun first second => first.precedes second = true) :
    neighboursApart ranges = true ↔ ranges.Pairwise Apart := by
  constructor
  · intro tested
    exact (pairwise_of_neighboursApart nonempty tested).imp apart_of_hi_lt_lo
  · intro apart
    apply neighboursApart_of_pairwise
    exact (apart.and ordered).imp_of_mem fun _ member both =>
      both.1.hi_lt_lo both.2 (nonempty _ member)

/-- The test does not depend on the order in which the ranges are listed. -/
theorem allApart_iff (nonempty : ∀ range ∈ ranges, range.lo ≤ range.hi) :
    allApart ranges = true ↔ ranges.Pairwise Apart := by
  have rearranged : (ranges.mergeSort precedes).Perm ranges := List.mergeSort_perm ranges precedes
  have ordered : (ranges.mergeSort precedes).Pairwise fun first second =>
      first.precedes second = true :=
    List.pairwise_mergeSort precedes_trans precedes_total ranges
  rw [allApart, neighboursApart_iff
    (fun range member => nonempty range (rearranged.mem_iff.1 member)) ordered]
  exact rearranged.pairwise_iff Apart.symm

end SearchRange

namespace WorkerPool

/-- No two workers at work have a candidate in common. -/
def SharesNone (pool : WorkerPool) : Prop :=
  ∀ ⦃worker other : WorkerId⦄ ⦃slot another : WorkerSlot⦄, worker ≠ other →
    pool.slot? worker = some slot → pool.slot? other = some another →
    slot.isActive = true → another.isActive = true →
    ∀ range ∈ slot.range, ∀ rival ∈ another.range, range.Apart rival

/-- In the list of the ranges at work every pair of workers meets once. -/
theorem pairwise_activeRanges_iff (pool : WorkerPool) :
    pool.activeRanges.Pairwise SearchRange.Apart ↔ pool.SharesNone := by
  rw [activeRanges, activeSlots, List.pairwise_filterMap, List.pairwise_filter,
    List.pairwise_iff_getElem]
  constructor
  · intro apart worker other slot another distinct found rivalFound active rivalActive
      range searches rival rivalSearches
    obtain ⟨inside, rfl⟩ := List.getElem?_eq_some_iff.1 found
    obtain ⟨rivalInside, rfl⟩ := List.getElem?_eq_some_iff.1 rivalFound
    rcases Nat.lt_or_gt_of_ne distinct with before | behind
    · exact apart worker other inside rivalInside before active rivalActive
        range searches rival rivalSearches
    · exact (apart other worker rivalInside inside behind rivalActive active
        rival rivalSearches range searches).symm
  · intro shares worker other inside rivalInside before active rivalActive
      range searches rival rivalSearches
    exact shares before.ne (List.getElem?_eq_getElem inside) (List.getElem?_eq_getElem rivalInside)
      active rivalActive range searches rival rivalSearches

/-- The test of a pool passes exactly if no two workers at work have a candidate in common,
whatever else their slots hold. -/
theorem rangesApart_iff {pool : WorkerPool}
    (nonempty : ∀ slot ∈ pool.slots, slot.isActive = true →
      ∀ range ∈ slot.range, range.lo ≤ range.hi) :
    pool.rangesApart = true ↔ pool.SharesNone := by
  rw [← pairwise_activeRanges_iff, rangesApart]
  apply SearchRange.allApart_iff
  intro range member
  obtain ⟨slot, active, searches⟩ := List.mem_filterMap.1 member
  obtain ⟨present, working⟩ := List.mem_filter.1 active
  exact nonempty slot present working range searches

/-- One range holds two others that lie apart, so an overlap is not between neighbours. A range
that an idle slot was left with does not count. -/
theorem rangesApart_iff_of_nested_ranges :
    let pool : WorkerPool :=
      { slots :=
          [{ WorkerSlot.fresh 0 with state := .busy, range := some ⟨6, 8⟩ },
            { WorkerSlot.fresh 1 with range := some ⟨0, 99⟩ },
            { WorkerSlot.fresh 2 with state := .assigned, range := some ⟨0, 9⟩ },
            { WorkerSlot.fresh 3 with state := .busy, range := some ⟨2, 3⟩ }]
        searchSpace := 100
        partitioned := true }
    (∀ slot ∈ pool.slots, slot.isActive = true → ∀ range ∈ slot.range, range.lo ≤ range.hi) ∧
      pool.rangesApart = false ∧ ¬pool.SharesNone := by
  intro pool
  have nonempty : ∀ slot ∈ pool.slots, slot.isActive = true →
      ∀ range ∈ slot.range, range.lo ≤ range.hi := by
    simp [pool]
  have tested : pool.rangesApart = false := by
    have ranges : pool.activeRanges = [⟨6, 8⟩, ⟨0, 9⟩, ⟨2, 3⟩] := rfl
    rw [rangesApart, ranges]
    simp [SearchRange.allApart, List.mergeSort, SearchRange.precedes, SearchRange.neighboursApart]
  refine ⟨nonempty, tested, fun shares => ?_⟩
  have passes : pool.rangesApart = true := (rangesApart_iff nonempty).2 shares
  exact Bool.noConfusion (passes.symm.trans tested)

end WorkerPool

end PoolArbiter
