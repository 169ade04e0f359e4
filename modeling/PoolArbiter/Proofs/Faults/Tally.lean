import PoolArbiter.Proofs.Custody.Recall
import PoolArbiter.Proofs.Round.Results

/-!
# The tally of faults

A list names the items that were taken back from workers past their time, one entry for
each time. `FaultTally` ties it to the counters of the controller: an item without a record
was listed once at most and its counter says so, an item with a record has no counter, and
an item that was dropped for its retries was listed twice. Publishing and dropping close an
item, queueing it again leaves its counter, and only a fault adds to the list.
-/

namespace PoolArbiter

/-- The counters agree with the items that were taken back for faults. -/
structure FaultTally (isOpen : WorkId → Prop) (drops : List DropRecord) (faults : List WorkId)
    (retries : KeyMap WorkId Nat) : Prop where
  counted : ∀ work, isOpen work → (retries.find? work).getD 0 = faults.count work
  once : ∀ work, isOpen work → faults.count work ≤ 1
  forgotten : ∀ work, ¬ isOpen work → retries.find? work = none
  twice : ∀ work, faults.count work ≤ 2
  exhausted : ∀ drop ∈ drops, drop.reason = .retriesExhausted → faults.count drop.work = 2

namespace FaultTally

variable {isOpen isNext : WorkId → Prop} {drops more : List DropRecord} {faults : List WorkId}
  {retries : KeyMap WorkId Nat} {work : WorkId} {drop : DropRecord}

/-- A tally stands without its drops. -/
theorem withoutDrops (tally : FaultTally isOpen drops faults retries) :
    FaultTally isOpen [] faults retries :=
  { tally with exhausted := fun _ member => by cases member }

/-- A tally depends on which items are open only. -/
theorem congr (tally : FaultTally isOpen drops faults retries)
    (same : ∀ work, isNext work ↔ isOpen work) : FaultTally isNext drops faults retries := by
  have equal : isNext = isOpen := funext fun work => propext (same work)
  exact equal ▸ tally

/-- An item ends for another reason than its retries, and its counter is erased. -/
theorem close (tally : FaultTally isOpen drops faults retries)
    (closed : ∀ other, isNext other ↔ isOpen other ∧ other ≠ work)
    (dropped : ∀ drop ∈ more, drop.reason = .retriesExhausted → drop ∈ drops) :
    FaultTally isNext more faults (retries.erase work) where
  counted other stays := by
    obtain ⟨before, different⟩ := (closed other).1 stays
    rw [KeyMap.find?_erase, if_neg different, tally.counted other before]
  once other stays := tally.once other ((closed other).1 stays).1
  forgotten other ended := by
    rw [KeyMap.find?_erase]
    split
    · rfl
    next different =>
      exact tally.forgotten other fun before => ended ((closed other).2 ⟨before, different⟩)
  twice := tally.twice
  exhausted drop member reason := tally.exhausted drop (dropped drop member reason) reason

/-- A further fault counts for its item only. -/
theorem count_concat (faults : List WorkId) (work other : WorkId) :
    (faults ++ [work]).count other = faults.count other + if other = work then 1 else 0 := by
  rw [List.count_append, List.count_singleton]
  congr 1
  by_cases same : other = work <;> simp [same, Ne.symm]

/-- An item that was not listed before is taken back, and it stays open. -/
theorem first (tally : FaultTally isOpen drops faults retries) (stays : isOpen work)
    (fresh : faults.count work = 0) :
    FaultTally isOpen drops (faults ++ [work]) (retries.insert work 1) where
  counted other isOther := by
    rw [KeyMap.find?_insert, count_concat]
    split
    next same => rw [same, fresh, Option.getD_some]
    next => exact tally.counted other isOther
  once other isOther := by
    rw [count_concat]
    split
    next same => rw [same, fresh]
    next => exact tally.once other isOther
  forgotten other ended := by
    have different : other ≠ work := fun same => ended (same ▸ stays)
    rw [KeyMap.find?_insert, if_neg different]
    exact tally.forgotten other ended
  twice other := by
    have bounded := tally.twice other
    rw [count_concat]
    split
    next same => rw [same, fresh]; exact Nat.le_succ 1
    next => exact bounded
  exhausted drop member reason := by
    have twice := tally.exhausted drop member reason
    have different : drop.work ≠ work := by
      rintro same
      rw [same, fresh] at twice
      cases twice
    rw [count_concat, if_neg different, twice]

/-- An item that was listed once is taken back again, and it is dropped. -/
theorem second (tally : FaultTally isOpen drops faults retries)
    (listed : faults.count work = 1)
    (closed : ∀ other, isNext other ↔ isOpen other ∧ other ≠ work)
    (dropped : ∀ drop ∈ more, drop ∈ drops ∨ drop.work = work) (count : Nat) :
    FaultTally isNext more (faults ++ [work]) ((retries.insert work count).erase work) where
  counted other stays := by
    obtain ⟨before, different⟩ := (closed other).1 stays
    rw [KeyMap.find?_erase, if_neg different, KeyMap.find?_insert, if_neg different,
      count_concat, if_neg different, tally.counted other before]
    rfl
  once other stays := by
    obtain ⟨before, different⟩ := (closed other).1 stays
    rw [count_concat, if_neg different]
    exact tally.once other before
  forgotten other ended := by
    rw [KeyMap.find?_erase]
    split
    · rfl
    next different =>
      rw [KeyMap.find?_insert, if_neg different]
      exact tally.forgotten other fun before => ended ((closed other).2 ⟨before, different⟩)
  twice other := by
    have bounded := tally.twice other
    rw [count_concat]
    split
    next same => rw [same, listed]
    next => exact bounded
  exhausted drop member reason := by
    rw [count_concat]
    rcases dropped drop member with old | same
    · have twice := tally.exhausted drop old reason
      have different : drop.work ≠ work := by
        rintro same
        rw [same, listed] at twice
        cases twice
      rw [if_neg different, twice]
    · rw [if_pos same, same, listed]

end FaultTally

/-- The numbers of the items that some workers hold. -/
def WorkerPool.worksOf (pool : WorkerPool) (workers : List WorkerId) : List WorkId :=
  workers.filterMap fun worker => (pool.itemOf? worker).map (·.id)

/-- Taking up work changes no item. -/
theorem WorkerPool.itemOf?_promote (pool : WorkerPool) (worker : WorkerId) :
    pool.promote.itemOf? worker = pool.itemOf? worker := by
  rw [itemOf?, slot?_promote, itemOf?]
  cases pool.slot? worker with
  | none => rfl
  | some slot => rw [Option.map_some, Option.bind_some, Option.bind_some, slot.promote_eq]

/-- Idling a worker leaves the items of the others. -/
theorem WorkerPool.itemOf?_release {pool : WorkerPool} {worker other : WorkerId}
    (different : other ≠ worker) (next : WorkerState) :
    (pool.release worker next).itemOf? other = pool.itemOf? other := by
  rw [itemOf?, release, slot?_update, if_neg (Ne.symm different), itemOf?]

/-- Workers that hold items of different numbers hold them once. -/
theorem WorkerPool.nodup_worksOf {pool : WorkerPool} (distinct : pool.works.Nodup)
    {workers : List WorkerId} (apart : workers.Nodup) : (pool.worksOf workers).Nodup := by
  refine apart.filterMap fun worker rival work here there => ?_
  obtain ⟨item, holds, named⟩ := Option.map_eq_some_iff.1 here
  obtain ⟨other, rivals, same⟩ := Option.map_eq_some_iff.1 there
  exact holder_unique distinct rivals holds (named.trans same.symm)

namespace Turn

/-- An item that was live when the round began has no record yet. -/
def IsOpen (items : Multiset WorkItem) (turn : Turn) (work : WorkId) : Prop :=
  work ∈ items.map (·.id) ∧ ∀ record ∈ turn.log.records, record.work ≠ work

/-- The counters of a turn agree with the faults so far. -/
abbrev Tallies (turn : Turn) (items : Multiset WorkItem) (faults : List WorkId) : Prop :=
  FaultTally (turn.IsOpen items) turn.log.drops faults turn.controller.faultRetries

variable {turn next final : Turn} {items : Multiset WorkItem} {faults : List WorkId}
  {item : WorkItem} {worker : WorkerId} {record : Record}

/-- A record closes the item that it is about. -/
theorem isOpen_of_records {closed : WorkId}
    (written : next.log.records.Perm (record :: turn.log.records)) (about : record.work = closed)
    (work : WorkId) : next.IsOpen items work ↔ turn.IsOpen items work ∧ work ≠ closed := by
  subst about
  simp only [IsOpen, written.mem_iff, List.forall_mem_cons, and_assoc]
  exact and_congr_right fun _ => and_comm.trans (and_congr_right fun _ => ne_comm)

/-- Publishing an item closes it and no other. -/
theorem isOpen_publish (turn : Turn) (result : WorkResult) (work : WorkId) :
    (turn.publish result).IsOpen items work ↔
      turn.IsOpen items work ∧ work ≠ result.work := by
  have written : (turn.publish result).log.records.Perm (.finished result :: turn.log.records) :=
    RoundLog.records_of_result rfl rfl
  exact isOpen_of_records written rfl work

/-- Dropping an item closes it and no other. -/
theorem isOpen_recordDrop (turn : Turn) (item : WorkItem) (reason : DropReason) (work : WorkId) :
    (turn.recordDrop item reason).IsOpen items work ↔
      turn.IsOpen items work ∧ work ≠ item.id := by
  have written : (turn.recordDrop item reason).log.records.Perm
      (.dropped (item.dropRecord reason turn.controller.round) :: turn.log.records) :=
    RoundLog.records_of_drop rfl rfl
  exact isOpen_of_records written rfl work

/-- A worker holds an open item. -/
theorem Keeps.isOpen (keeps : turn.Keeps items 0) (distinct : (items.map (·.id)).Nodup)
    (holds : turn.controller.pool.itemOf? worker = some item) : turn.IsOpen items item.id := by
  obtain ⟨slot, found, held⟩ := Option.bind_eq_some_iff.1 holds
  have live : item ∈ 0 + (turn.controller.queues.contents + turn.controller.pool.held) := by
    rw [zero_add]
    exact Multiset.mem_add.2
      (.inr (WorkerPool.mem_gather.2 ⟨slot, WorkerPool.mem_of_slot? found, held⟩))
  exact ⟨Multiset.mem_map_of_mem _ (keeps.accounted.mem_of_live live),
    keeps.accounted.work_ne distinct item live⟩

section Closing

/-- Publishing keeps the tally. -/
theorem Tallies.publish (tallies : turn.Tallies items faults) (result : WorkResult) :
    (turn.publish result).Tallies items faults :=
  tallies.close (turn.isOpen_publish result) fun _ member _ => member

/-- Dropping an item for another reason keeps the tally. -/
theorem Tallies.recordDrop (tallies : turn.Tallies items faults) (item : WorkItem)
    {reason : DropReason} (other : reason ≠ .retriesExhausted) :
    (turn.recordDrop item reason).Tallies items faults := by
  refine tallies.close (turn.isOpen_recordDrop item reason) ?_
  intro drop member exhausted
  rcases List.mem_append.1 member with old | new
  · exact old
  · rw [List.mem_singleton.1 new] at exhausted
    exact absurd exhausted other

/-- Queueing an item again leaves its counter, and dropping it for lack of room closes it. -/
theorem Tallies.requeueOrDrop (tallies : turn.Tallies items faults) (item : WorkItem) :
    (turn.requeueOrDrop item).Tallies items faults := by
  unfold Turn.requeueOrDrop
  dsimp only
  split
  next => exact tallies
  next => exact Tallies.recordDrop tallies item DropReason.noConfusion

/-- Queueing items again keeps the tally. -/
theorem Tallies.requeueAll (tallies : turn.Tallies items faults) (reclaimed : List WorkItem) :
    (reclaimed.foldl Turn.requeueOrDrop turn).Tallies items faults :=
  List.foldlRecOn (motive := fun turn : Turn => turn.Tallies items faults) _ _ tallies
    fun _ tallies item _ => tallies.requeueOrDrop item

/-- Collecting keeps the tally. -/
theorem Tallies.collect (tallies : turn.Tallies items faults) (snapshot : Snapshot) :
    (turn.collect snapshot).Tallies items faults :=
  List.foldlRecOn (motive := fun turn : Turn => turn.Tallies items faults) _ _ tallies
    fun _ tallies result _ => tallies.publish result

/-- Exclusions keep the tally. -/
theorem Tallies.applyHealth (tallies : turn.Tallies items faults) (snapshot : Snapshot) :
    (turn.applyHealth snapshot).Tallies items faults := by
  refine Tallies.requeueAll ?_ _
  exact tallies

/-- Idling a worker over the cap keeps the tally. -/
theorem Tallies.preempt (tallies : turn.Tallies items faults) (worker : WorkerId) :
    (turn.preempt worker).Tallies items faults := by
  unfold Turn.preempt
  dsimp only
  split
  next => exact tallies
  next item _ =>
    split
    · exact Tallies.publish tallies (item.result worker .exhausted turn.controller.round)
    · refine Tallies.requeueOrDrop ?_ item
      exact tallies

/-- Enforcing the cap keeps the tally. -/
theorem Tallies.enforceCap (tallies : turn.Tallies items faults) (snapshot : Snapshot) :
    (turn.enforceCap snapshot).Tallies items faults := by
  let governor :=
    turn.controller.governor.recompute turn.controller.pool.activeCount snapshot.sensor
  have shed : ((governor.excess turn.controller.pool).foldl Turn.preempt
      { turn with controller := { turn.controller with governor := governor } }).Tallies
        items faults :=
    List.foldlRecOn (motive := fun turn : Turn => turn.Tallies items faults) _ _ tallies
      fun _ tallies worker _ => tallies.preempt worker
  exact shed

/-- The adaptation keeps the tally. -/
theorem Tallies.adapt (tallies : turn.Tallies items faults) :
    turn.adapt.Tallies items faults := by
  unfold Turn.adapt
  dsimp only
  split <;> exact tallies

/-- Assignments keep the tally. -/
theorem Tallies.assigns (tallies : turn.Tallies items faults) (assigns : Assigns turn final) :
    final.Tallies items faults := by
  induction assigns with
  | done => exact tallies
  | handOver _ _ inductionHypothesis => exact inductionHypothesis tallies

end Closing

section Faults

/-- A worker past its time loses its item: the first time the item stays open, and the
second time it is dropped for its retries. -/
theorem Tallies.reclaimFault (tallies : turn.Tallies items faults)
    (holds : turn.controller.pool.itemOf? worker = some item)
    (stays : turn.IsOpen items item.id) :
    (turn.reclaimFault worker).Tallies items (faults ++ [item.id]) := by
  have counted := tallies.counted item.id stays
  have once := tallies.once item.id stays
  unfold Turn.reclaimFault
  simp only [holds]
  split
  next again =>
    have listed : faults.count item.id = 1 := by omega
    refine tallies.second listed (isOpen_recordDrop _ item .retriesExhausted) ?_ _
    intro drop member
    rcases List.mem_append.1 member with old | new
    · exact .inl old
    · rw [List.mem_singleton.1 new]
      exact .inr rfl
  next notAgain =>
    have fresh : faults.count item.id = 0 := by omega
    rw [counted, fresh]
    refine Tallies.requeueOrDrop ?_ item
    exact tallies.first stays fresh

/-- Several workers past their time lose the items that they held before the first of them
did. -/
theorem Tallies.reclaimAll {workers : List WorkerId} (tallies : turn.Tallies items faults)
    (keeps : turn.Keeps items 0) (distinct : (items.map (·.id)).Nodup) (apart : workers.Nodup)
    (trusted : ∀ worker ∈ workers, turn.controller.pool.Trusts worker) :
    (workers.foldl Turn.reclaimFault turn).Keeps items 0 ∧
      (workers.foldl Turn.reclaimFault turn).Tallies items
        (faults ++ turn.controller.pool.worksOf workers) := by
  induction workers generalizing turn faults with
  | nil => exact ⟨keeps, by simpa [WorkerPool.worksOf] using tallies⟩
  | cons worker rest inductionHypothesis =>
      obtain ⟨alone, apartRest⟩ := List.nodup_cons.1 apart
      have kept := keeps.reclaimFault (trusted worker List.mem_cons_self)
      have trustedRest : ∀ other ∈ rest,
          (turn.reclaimFault worker).controller.pool.Trusts other := fun other member => by
        rw [pool_reclaimFault]
        exact (trusted other (List.mem_cons_of_mem _ member)).release worker .idle
      have same : (turn.reclaimFault worker).controller.pool.worksOf rest =
          turn.controller.pool.worksOf rest := by
        refine List.filterMap_congr fun other member => ?_
        have different : other ≠ worker := fun equal => alone (equal ▸ member)
        rw [pool_reclaimFault, WorkerPool.itemOf?_release different]
      have later {faults : List WorkId}
          (tallies : (turn.reclaimFault worker).Tallies items faults) :=
        inductionHypothesis tallies kept apartRest trustedRest
      rw [same] at later
      rw [List.foldl_cons]
      cases holds : turn.controller.pool.itemOf? worker with
      | none =>
          have unlisted : turn.controller.pool.worksOf (worker :: rest) =
              turn.controller.pool.worksOf rest := by
            simp [WorkerPool.worksOf, holds]
          rw [unlisted]
          refine later ?_
          unfold Turn.reclaimFault
          simp only [holds]
          exact tallies
      | some item =>
          have listed : turn.controller.pool.worksOf (worker :: rest) =
              [item.id] ++ turn.controller.pool.worksOf rest := by
            simp [WorkerPool.worksOf, holds]
          rw [listed, ← List.append_assoc]
          exact later (tallies.reclaimFault holds (keeps.isOpen distinct holds))

end Faults

end Turn

end PoolArbiter
