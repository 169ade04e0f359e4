import PoolArbiter.Proofs.Configuration.Tests
import PoolArbiter.Proofs.Round.Tenure
import PoolArbiter.Proofs.Search.Slices
import PoolArbiter.Proofs.Worker.Working

/-!
# Workers search apart

An accepted configuration with partition mode has a slice of the search space for each
worker, and every candidate lies in exactly one of them. Throughout a lifetime a worker
searches nothing but its slice, so the ranges at work lie apart.
-/

namespace PoolArbiter

namespace SearchRange

/-- If all ranges are apart, so are neighbours. -/
theorem neighboursApart_of_pairwise {ranges : List SearchRange}
    (apart : ranges.Pairwise fun first second => first.hi < second.lo) :
    neighboursApart ranges = true := by
  fun_induction neighboursApart ranges with
  | case1 first second rest inductionHypothesis =>
      obtain ⟨head, tail⟩ := List.pairwise_cons.1 apart
      rw [inductionHypothesis tail, Bool.and_true]
      exact decide_eq_true (head second List.mem_cons_self)
  | case2 => rfl

/-- Ranges that stand apart and in order pass the test. -/
theorem allApart_of_pairwise {ranges : List SearchRange}
    (nonempty : ∀ range ∈ ranges, range.lo ≤ range.hi)
    (apart : ranges.Pairwise fun first second => first.hi < second.lo) :
    allApart ranges = true := by
  have ordered : ranges.Pairwise fun first second => precedes first second = true := by
    refine apart.imp_of_mem fun {first second} member _ before => ?_
    have starts := Nat.lt_of_le_of_lt (nonempty first member) before
    simp [precedes, starts]
  rw [allApart, List.mergeSort_of_pairwise ordered]
  exact neighboursApart_of_pairwise apart

end SearchRange

namespace WorkerPool

/-- The slices of some workers partition a space, and they are found with 64-bit words. -/
structure Partitions (pool : WorkerPool) (workers space : Nat) : Prop where
  covered : ∀ candidate < space,
    ∃! worker, worker < workers ∧ (pool.rangeFor worker).Contains candidate
  nonempty : ∀ worker < workers, (pool.rangeFor worker).lo ≤ (pool.rangeFor worker).hi
  inside : ∀ worker < workers, (pool.rangeFor worker).hi < space
  inWords : ∀ worker < workers, pool.rangeInWords? worker = some (pool.rangeFor worker)

variable {pool : WorkerPool} {round : Round}

/-- The ranges of a sliced pool partition its search space. -/
theorem Sliced.partitions (sliced : pool.Sliced)
    (word : pool.searchSpace ≤ Binary64.greatestWord) :
    pool.Partitions pool.size pool.searchSpace where
  covered := fun _ inside => sliced.existsUnique_contains inside
  nonempty := fun _ inside => sliced.lo_le_hi inside
  inside := fun _ inside => sliced.hi_lt_searchSpace inside
  inWords := fun _ inside => sliced.rangeInWords?_eq word inside

/-- A range at work is the slice of the worker. -/
theorem Tenured.range_eq (tenured : pool.Tenured round) (sound : pool.Sound)
    {slot : WorkerSlot} (member : slot ∈ pool.slots) {range : SearchRange}
    (searches : slot.range = some range) : range = pool.rangeFor slot.id :=
  (tenured slot.id slot (sound.found member)).range range searches

/-- Each range at work ends before that of the next worker starts. -/
theorem Sliced.pairwise_activeRanges (sliced : pool.Sliced) (sound : pool.Sound)
    (tenured : pool.Tenured round) :
    pool.activeRanges.Pairwise fun first second => first.hi < second.lo := by
  rw [activeRanges, List.pairwise_filterMap]
  refine sound.pairwise_id.imp_of_mem fun {first second} firstMember secondMember earlier => ?_
  intro firstRange firstSearches secondRange secondSearches
  have firstSlot := List.mem_of_mem_filter firstMember
  have secondSlot := List.mem_of_mem_filter secondMember
  rw [tenured.range_eq sound firstSlot firstSearches,
    tenured.range_eq sound secondSlot secondSearches]
  exact sliced.hi_lt_lo earlier (sound.id_lt_size secondSlot)

/-- The workers of a sliced pool search apart. -/
theorem Sliced.rangesApart (sliced : pool.Sliced) (sound : pool.Sound)
    (tenured : pool.Tenured round) : pool.rangesApart = true := by
  refine SearchRange.allApart_of_pairwise ?_ (sliced.pairwise_activeRanges sound tenured)
  intro range member
  obtain ⟨slot, active, searches⟩ := List.mem_filterMap.1 member
  have slotMember := List.mem_of_mem_filter active
  rw [tenured.range_eq sound slotMember searches]
  exact sliced.lo_le_hi (sound.id_lt_size slotMember)

end WorkerPool

/-- No two workers search the same candidate. -/
structure Controller.SearchesApart (controller : Controller) : Prop where
  /-- The ranges at work lie apart, and the test of the pool says so. -/
  apart : controller.pool.activeRanges.Pairwise fun first second => first.hi < second.lo
  tested : controller.pool.rangesApart = true
  /-- What the next round assigns is to be searched in the slice of its worker. -/
  own : ∀ assignment ∈ controller.runRound.2.log.assignments,
    assignment.range = controller.pool.rangeFor assignment.worker

namespace Configuration

variable {config : Configuration}

/-- A pool with the layout that is configured has a slice for each worker. -/
theorem IsAccepted.sliced (accepted : config.IsAccepted)
    (partitioned : config.pool.partitionMode = true) {pool : WorkerPool}
    (layout : pool.layout =
      ⟨config.pool.workers, config.pool.searchSpace, config.pool.partitionMode⟩) :
    pool.Sliced := by
  simp only [WorkerPool.layout, WorkerPool.Layout.mk.injEq] at layout
  obtain ⟨size, space, mode⟩ := layout
  refine ⟨mode.trans partitioned, size ▸ accepted.passes.workers, ?_⟩
  rw [size, space]
  exact accepted.passes.searchSpace partitioned

/-- A controller is created for every accepted configuration. -/
theorem IsAccepted.lifetime (accepted : config.IsAccepted) :
    Lifetime config [] (Controller.start config) := by
  refine .start ?_
  rw [Controller.create, (check_eq_ok_iff config).2 accepted]

/-- With partition mode on, the slices of an accepted configuration partition the search
space, however large a word names it, and they are computed without leaving the words.
Throughout a lifetime the workers keep to these slices and search apart. -/
theorem partition (accepted : config.IsAccepted) (partitioned : config.pool.partitionMode = true)
    (word : config.pool.searchSpace ≤ Binary64.greatestWord) :
    (Controller.start config).pool.Partitions config.pool.workers config.pool.searchSpace ∧
      ∀ {history : History} {controller : Controller}, Lifetime config history controller →
        (∀ worker, controller.pool.rangeFor worker =
          (Controller.start config).pool.rangeFor worker) ∧
        controller.SearchesApart := by
  have fresh : (Controller.start config).pool.layout =
      ⟨config.pool.workers, config.pool.searchSpace, config.pool.partitionMode⟩ :=
    WorkerPool.layout_fresh _ _ _
  refine ⟨?_, fun {history controller} lifetime => ⟨fun worker => ?_, ?_⟩⟩
  · have slices := (accepted.sliced partitioned fresh).partitions word
    have size : (Controller.start config).pool.size = config.pool.workers :=
      congrArg WorkerPool.Layout.workers fresh
    rwa [size] at slices
  · exact WorkerPool.rangeFor_eq_of_layout (lifetime.layout.trans fresh.symm) worker
  · have sound := lifetime.ledgered.sound
    have sliced := accepted.sliced partitioned lifetime.layout
    exact ⟨sliced.pairwise_activeRanges sound.pool lifetime.tenured,
      sliced.rangesApart sound.pool lifetime.tenured,
      fun assignment listed => (sound.assignment_runRound listed).2⟩

/-- Three workers share ten candidates, and all of them are at work: the last one takes
the remainder. -/
theorem partition_of_ten_candidates :
    let config : Configuration := { pool := { workers := 3, searchSpace := 10 } }
    let operations : List Operation :=
      [.submit ⟨[1]⟩ .low, .submit ⟨[2]⟩ .low, .submit ⟨[3]⟩ .low, .round]
    let controller := (Controller.start config).after operations
    config.IsAccepted ∧ config.pool.partitionMode = true ∧
      config.pool.searchSpace ≤ Binary64.greatestWord ∧
      controller.pool.activeRanges = [⟨0, 2⟩, ⟨3, 5⟩, ⟨6, 9⟩] ∧
      (Controller.start config).pool.Partitions 3 10 ∧
      (∀ worker, controller.pool.rangeFor worker =
        (Controller.start config).pool.rangeFor worker) ∧
      controller.SearchesApart := by
  intro config operations controller
  have accepted : config.IsAccepted := by
    unfold IsAccepted
    decide +kernel
  have lifetime : Lifetime config ((Controller.start config).stepsOf operations) controller :=
    accepted.lifetime.after operations
  have word : config.pool.searchSpace ≤ Binary64.greatestWord := by decide
  obtain ⟨slices, throughout⟩ := partition accepted rfl word
  refine ⟨accepted, rfl, word, ?_, slices, throughout lifetime⟩
  decide +kernel

end Configuration

end PoolArbiter
