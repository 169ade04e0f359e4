import PoolArbiter.Proofs.Collection.Verdicts
import PoolArbiter.Proofs.Round.Oversight

/-!
# What leaves a worker

An item that leaves its worker within a round is logged once: as a result, as queued
again or as dropped. The verdict on it is forgotten at the same moment, so that none is
left when the item is handed over again. `Departs` states both of a collector and a
pool, with the items that have left their worker and are not logged yet, and
`Turn.Departs` of a turn.
-/

namespace PoolArbiter

/-- The numbers of the items that the workers hold. -/
def WorkerPool.works (pool : WorkerPool) : Multiset WorkId :=
  pool.held.map (·.id)

/-- The numbers of the items that the log takes from their workers. -/
def RoundLog.departed (log : RoundLog) : List WorkId :=
  log.results.map (·.work) ++ (log.requeued ++ log.drops.map (·.work))

/-- Promotion does not change what a slot is at work on. -/
theorem WorkerSlot.activeWork?_promote (slot : WorkerSlot) :
    slot.promote.activeWork? = slot.activeWork? := by
  unfold promote
  split
  next assigned => simp [activeWork?, isActive, assigned, WorkerState.isActive]
  next => rfl

namespace WorkerPool

variable {pool : WorkerPool} {worker rival : WorkerId} {item same : WorkItem} {work : WorkId}
  {change : WorkerSlot → WorkerSlot}

/-- Promotion does not change what is at work. -/
theorem works_promote (pool : WorkerPool) : pool.promote.works = pool.works := by
  rw [works, held_promote, works]

/-- Promotion does not change what is in flight. -/
theorem worksInFlight_promote (pool : WorkerPool) :
    pool.promote.worksInFlight = pool.worksInFlight := by
  unfold worksInFlight promote
  rw [List.filterMap_map]
  exact List.filterMap_congr fun slot _ => slot.activeWork?_promote

/-- A worker that is vacated gives up the item that it holds. -/
theorem works_of_holds (holds : pool.itemOf? worker = some item)
    (vacated : ∀ slot, (change slot).item = none) :
    pool.works = item.id ::ₘ (pool.update worker change).works := by
  obtain ⟨slot, found, held⟩ := Option.bind_eq_some_iff.1 holds
  have taken : pool.held = item ::ₘ (pool.update worker change).held :=
    gather_of_some_none found held (vacated slot)
  rw [works, taken, Multiset.map_cons, works]

/-- Vacating a free worker changes nothing. -/
theorem works_of_free (free : pool.itemOf? worker = none)
    (vacated : ∀ slot, (change slot).item = none) :
    (pool.update worker change).works = pool.works := by
  cases found : pool.slot? worker with
  | none => rw [update_of_slot?_eq_none found]
  | some slot =>
      have empty : slot.item = none := by
        simpa only [itemOf?, found, Option.bind_some] using free
      have kept : (pool.update worker change).held = pool.held :=
        gather_of_eq found (by rw [vacated, empty])
      rw [works, kept, works]

/-- What is at work changes with the items of the slots only. -/
theorem works_update (worker : WorkerId) (kept : ∀ slot, (change slot).item = slot.item) :
    (pool.update worker change).works = pool.works := by
  cases found : pool.slot? worker with
  | none => rw [update_of_slot?_eq_none found]
  | some slot =>
      have same : (pool.update worker change).held = pool.held := gather_of_eq found (kept slot)
      rw [works, same, works]

/-- What is at work changes with the items of the slots only, in whatever many slots. -/
theorem works_updateAll (pool : WorkerPool) (workers : List WorkerId)
    (kept : ∀ slot, (change slot).item = slot.item) :
    (pool.updateAll workers change).works = pool.works :=
  List.foldlRecOn (motive := fun updated : WorkerPool => updated.works = pool.works) _ _ rfl
    fun _ same worker _ => (works_update worker kept).trans same

/-- An item is at work if some slot holds it. -/
theorem mem_works : work ∈ pool.works ↔
    ∃ slot ∈ pool.slots, ∃ item, slot.item = some item ∧ item.id = work := by
  simp only [works, Multiset.mem_map, mem_gather]
  constructor
  · rintro ⟨item, ⟨slot, present, holds⟩, rfl⟩
    exact ⟨slot, present, item, holds, rfl⟩
  · rintro ⟨slot, present, item, holds, rfl⟩
    exact ⟨item, ⟨slot, present, holds⟩, rfl⟩

/-- What a worker holds is at work. -/
theorem mem_works_of_holds (holds : pool.itemOf? worker = some item) : item.id ∈ pool.works := by
  obtain ⟨slot, found, held⟩ := Option.bind_eq_some_iff.1 holds
  exact mem_works.2 ⟨slot, mem_of_slot? found, item, held, rfl⟩

/-- If no two workers hold items of the same number, the number tells the worker. -/
theorem holder_unique (distinct : pool.works.Nodup) (holds : pool.itemOf? worker = some item)
    (other : pool.itemOf? rival = some same) (equal : same.id = item.id) : rival = worker := by
  by_contra different
  have vacated : ∀ slot : WorkerSlot, (slot.vacate .idle).item = none := fun _ => rfl
  rw [works_of_holds holds vacated, Multiset.nodup_cons] at distinct
  obtain ⟨slot, found, held⟩ := Option.bind_eq_some_iff.1 other
  have spared : (pool.update worker (·.vacate .idle)).slot? rival = some slot := by
    rw [slot?_update, if_neg (Ne.symm different), found]
  exact distinct.1 (mem_works.2 ⟨slot, mem_of_slot? spared, same, held, equal⟩)

/-- An excluded worker leaves a sound pool. -/
theorem Sound.exclude (sound : pool.Sound) (worker : WorkerId) :
    (pool.update worker fun held => { held.vacate .unavailable with trusted := false }).Sound :=
  sound.update (fun _ => rfl) fun slot _ => WorkerSlot.sound_exclude slot

/-- In a sound pool the items that are held are those at work. -/
theorem Sound.coe_worksInFlight (sound : pool.Sound) :
    (pool.worksInFlight : Multiset WorkId) = pool.works := by
  unfold works held gather worksInFlight
  rw [Multiset.map_coe, List.map_filterMap]
  congr 1
  refine List.filterMap_congr fun slot member => ?_
  have matched := (sound.slot member).item
  cases holds : slot.item <;> simp [WorkerSlot.activeWork?, ← matched, holds]

/-- In a sound pool an item is in flight exactly if it is at work. -/
theorem Sound.mem_worksInFlight (sound : pool.Sound) :
    work ∈ pool.worksInFlight ↔ work ∈ pool.works := by
  rw [← sound.coe_worksInFlight, Multiset.mem_coe]

end WorkerPool

/-- Forgetting twice is forgetting. -/
theorem Collector.find?_forget_forget (collector : Collector) (work key : WorkId) :
    ((collector.forget work).forget work).verdicts.find? key =
      if key = work then none else collector.verdicts.find? key := by
  simp only [forget, KeyMap.find?_erase]
  split <;> rfl

/-- Of the verdicts those are kept whose item is in flight. -/
theorem Collector.find?_retainInFlight (collector : Collector) (pool : WorkerPool)
    (work : WorkId) :
    (collector.retainInFlight pool).verdicts.find? work =
      if work ∈ pool.worksInFlight then collector.verdicts.find? work else none := by
  rw [retainInFlight]
  dsimp only
  rw [KeyMap.find?_filter]
  cases collector.verdicts.find? work <;> simp [Option.filter, eq_comm]

/-- Of some items each is on its way, held or gone, and the verdicts that are kept are
those on the items on their way and held, as they were given. -/
structure Departs (works : Multiset WorkId) (said : WorkId → Option Bool)
    (transit gone : Multiset WorkId) (collector : Collector) (pool : WorkerPool) : Prop where
  distinct : works.Nodup
  balance : works = transit + (pool.works + gone)
  recalled : ∀ work, collector.verdicts.find? work =
    if work ∈ transit + pool.works then said work else none

namespace Departs

variable {works transit gone more : Multiset WorkId} {said : WorkId → Option Bool}
  {collector next : Collector} {pool : WorkerPool} {worker : WorkerId} {item : WorkItem}
  {work : WorkId} {change : WorkerSlot → WorkerSlot}

/-- A worker loses its item. -/
theorem takeBack (departs : Departs works said transit gone collector pool)
    (holds : pool.itemOf? worker = some item) (change : WorkerSlot → WorkerSlot)
    (vacated : ∀ slot, (change slot).item = none) :
    Departs works said (item.id ::ₘ transit) gone collector (pool.update worker change) := by
  have taken := WorkerPool.works_of_holds holds vacated
  have shifted : transit + pool.works =
      item.id ::ₘ transit + (pool.update worker change).works := by
    rw [taken, Multiset.add_cons, Multiset.cons_add]
  refine ⟨departs.distinct, ?_, ?_⟩
  · rw [departs.balance, ← add_assoc, shifted, add_assoc]
  · intro work
    rw [departs.recalled work, shifted]

/-- A worker without an item loses nothing. -/
theorem vacate (departs : Departs works said transit gone collector pool)
    (free : pool.itemOf? worker = none) (change : WorkerSlot → WorkerSlot)
    (vacated : ∀ slot, (change slot).item = none) :
    Departs works said transit gone collector (pool.update worker change) := by
  have kept := WorkerPool.works_of_free free vacated
  refine ⟨departs.distinct, ?_, ?_⟩
  · rw [kept]
    exact departs.balance
  · rw [kept]
    exact departs.recalled

/-- An item on its way is gone, and the verdict on it is forgotten. -/
theorem close (departs : Departs works said (work ::ₘ transit) gone collector pool)
    (forgets : ∀ key, next.verdicts.find? key =
      if key = work then none else collector.verdicts.find? key)
    (written : more = work ::ₘ gone) :
    Departs works said transit more next pool := by
  have distinct := departs.distinct
  have balance := departs.balance
  refine ⟨distinct, ?_, ?_⟩
  · rw [balance, written, Multiset.cons_add, Multiset.add_cons, Multiset.add_cons]
  · -- The number is nowhere else, so no other verdict is lost.
    rw [balance, Multiset.cons_add, ← add_assoc, Multiset.nodup_cons, Multiset.mem_add,
      not_or] at distinct
    intro key
    rw [forgets key, departs.recalled key, Multiset.cons_add]
    by_cases same : key = work
    · rw [if_pos same, if_neg (same ▸ distinct.1.1)]
    · simp [same]

end Departs

namespace RoundLog

variable {log next : RoundLog}

/-- A result lets its item depart. -/
theorem departed_of_result {result : WorkResult} (results : next.results = log.results ++ [result])
    (requeued : next.requeued = log.requeued) (drops : next.drops = log.drops) :
    (next.departed : Multiset WorkId) = result.work ::ₘ log.departed := by
  rw [Multiset.cons_coe, Multiset.coe_eq_coe]
  simp only [departed, results, requeued, drops, List.map_append, List.map_cons, List.map_nil,
    List.append_assoc, List.singleton_append]
  exact List.perm_middle

/-- An item that is queued again departs. -/
theorem departed_of_requeue {work : WorkId} (results : next.results = log.results)
    (requeued : next.requeued = log.requeued ++ [work]) (drops : next.drops = log.drops) :
    (next.departed : Multiset WorkId) = work ::ₘ log.departed := by
  rw [Multiset.cons_coe, Multiset.coe_eq_coe]
  simp only [departed, results, requeued, drops, ← List.append_assoc]
  rw [List.append_assoc (log.results.map _ ++ log.requeued)]
  exact List.perm_middle.trans (by simp)

/-- A drop lets its item depart. -/
theorem departed_of_drop (drop : DropRecord) (results : next.results = log.results)
    (requeued : next.requeued = log.requeued) (drops : next.drops = log.drops ++ [drop]) :
    (next.departed : Multiset WorkId) = drop.work ::ₘ log.departed := by
  rw [Multiset.cons_coe, Multiset.coe_eq_coe]
  simp only [departed, results, requeued, drops, List.map_append, List.map_cons, List.map_nil,
    ← List.append_assoc]
  exact List.perm_append_singleton _ _

end RoundLog

namespace Turn

/-- A turn logs what leaves its workers, and nothing is withdrawn or drained in it. -/
structure Departs (works : Multiset WorkId) (said : WorkId → Option Bool)
    (transit : Multiset WorkId) (turn : Turn) : Prop where
  logged : PoolArbiter.Departs works said transit turn.log.departed turn.controller.collector
    turn.controller.pool
  reasons : ∀ drop ∈ turn.log.drops, drop.reason ≠ .withdrawn ∧ drop.reason ≠ .drained

variable {turn : Turn} {works transit : Multiset WorkId} {said : WorkId → Option Bool}
  {item : WorkItem}

section Ends

/-- A published item departs. -/
theorem departed_publish (turn : Turn) (result : WorkResult) :
    ((turn.publish result).log.departed : Multiset WorkId) = result.work ::ₘ turn.log.departed :=
  RoundLog.departed_of_result rfl rfl rfl

/-- A dropped item departs. -/
theorem departed_recordDrop (turn : Turn) (item : WorkItem) (reason : DropReason) :
    ((turn.recordDrop item reason).log.departed : Multiset WorkId) =
      item.id ::ₘ turn.log.departed :=
  RoundLog.departed_of_drop (item.dropRecord reason turn.controller.round) rfl rfl rfl

/-- Dropping an item in transit lets it depart. -/
theorem Departs.recordDrop (departs : turn.Departs works said (item.id ::ₘ transit))
    (reason : DropReason) (within : reason ≠ .withdrawn ∧ reason ≠ .drained) :
    (turn.recordDrop item reason).Departs works said transit where
  logged := departs.logged.close (fun key => KeyMap.find?_erase _ item.id key)
    (departed_recordDrop turn item reason)
  reasons := by
    intro drop member
    rcases List.mem_append.1 member with old | new
    · exact departs.reasons drop old
    · rw [List.mem_singleton.1 new]
      exact within

/-- Queueing an item in transit again, or dropping it, lets it depart. -/
theorem Departs.requeueOrDrop (departs : turn.Departs works said (item.id ::ₘ transit)) :
    (turn.requeueOrDrop item).Departs works said transit := by
  unfold Turn.requeueOrDrop
  dsimp only
  split
  next =>
    exact ⟨departs.logged.close (fun key => KeyMap.find?_erase _ item.id key)
      (RoundLog.departed_of_requeue rfl rfl rfl), departs.reasons⟩
  next =>
    have dropped := departs.recordDrop .queueFull (by simp)
    exact ⟨departs.logged.close (Collector.find?_forget_forget _ item.id)
      (departed_recordDrop _ item .queueFull), dropped.reasons⟩

/-- Several items in transit depart one after the other. -/
theorem Departs.requeueAll {reclaimed : List WorkItem}
    (departs : turn.Departs works said (reclaimed.map (·.id) + transit)) :
    (reclaimed.foldl Turn.requeueOrDrop turn).Departs works said transit := by
  induction reclaimed generalizing turn with
  | nil => simpa using departs
  | cons item rest inductionHypothesis =>
      rw [List.foldl_cons]
      apply inductionHypothesis
      apply Departs.requeueOrDrop
      rwa [← Multiset.cons_add, Multiset.cons_coe]

end Ends

section Releasing

variable {worker : WorkerId}

/-- The item of a late worker departs. -/
theorem Departs.reclaimFault (departs : turn.Departs works said transit) (worker : WorkerId) :
    (turn.reclaimFault worker).Departs works said transit := by
  unfold Turn.reclaimFault
  dsimp only
  split
  next free => exact ⟨departs.logged.vacate free _ fun _ => rfl, departs.reasons⟩
  next item holds =>
    have released := departs.logged.takeBack holds (·.vacate .idle) fun _ => rfl
    split
    · refine Departs.recordDrop ?_ _ (by simp)
      exact ⟨released, departs.reasons⟩
    · refine Departs.requeueOrDrop ?_
      exact ⟨released, departs.reasons⟩

/-- The items of all late workers depart. -/
theorem Departs.detectFaults (departs : turn.Departs works said transit) :
    turn.detectFaults.Departs works said transit :=
  List.foldlRecOn _ _ departs fun _ departs worker _ => departs.reclaimFault worker

/-- The item of a worker that is idled departs. -/
theorem Departs.preempt (departs : turn.Departs works said transit) (worker : WorkerId) :
    (turn.preempt worker).Departs works said transit := by
  unfold Turn.preempt
  dsimp only
  split
  next free => exact ⟨departs.logged.vacate free _ fun _ => rfl, departs.reasons⟩
  next item holds =>
    have released := departs.logged.takeBack holds (·.vacate .idle) fun _ => rfl
    split
    · exact ⟨released.close (fun key => KeyMap.find?_erase _ item.id key)
        (departed_publish _ (item.result worker .exhausted turn.controller.round)),
        departs.reasons⟩
    · refine Departs.requeueOrDrop ?_
      exact ⟨released, departs.reasons⟩

/-- The items of all workers over the cap depart. -/
theorem Departs.enforceCap (departs : turn.Departs works said transit) (snapshot : Snapshot) :
    (turn.enforceCap snapshot).Departs works said transit := by
  have shed := List.foldlRecOn (motive := fun turn : Turn => turn.Departs works said transit)
    ((turn.controller.governor.recompute turn.controller.pool.activeCount
      snapshot.sensor).excess turn.controller.pool) Turn.preempt
    (b := { turn with
      controller :=
        { turn.controller with
          governor := turn.controller.governor.recompute turn.controller.pool.activeCount
            snapshot.sensor } })
    ⟨departs.logged, departs.reasons⟩ fun _ departs worker _ => departs.preempt worker
  exact ⟨shed.logged, shed.reasons⟩

end Releasing

section Collecting

variable {gone : Multiset WorkId} {collector : Collector} {pool : WorkerPool}
  {progress : Collector.Progress}

/-- A completion that counts is one for the item of its worker. -/
theorem itemOf?_of_heldItem? {completion : Completion} {slot : WorkerSlot}
    (counts : Collector.heldItem? pool completion = some (slot, item)) :
    pool.itemOf? completion.worker = some item := by
  obtain ⟨found, holds, _⟩ := heldItem?_eq_some counts
  rw [WorkerPool.itemOf?, found, Option.bind_some, holds]

/-- The items of the results of a poll are gone, and the verdicts on them are used up. -/
theorem departs_accept (round : Round) (completion : Completion)
    (departs : PoolArbiter.Departs works said 0 (progress.yield.results.map (·.work) + gone)
      progress.collector progress.pool) :
    PoolArbiter.Departs works said 0
      ((progress.accept round completion).yield.results.map (·.work) + gone)
      (progress.accept round completion).collector (progress.accept round completion).pool := by
  unfold Collector.Progress.accept
  split
  next => exact departs
  next slot item counts =>
    have taken := departs.takeBack (itemOf?_of_heldItem? counts)
      (fun held =>
        { held.vacate .idle with
          load := Binary64.clamp 0 100 completion.load
          latency := Collector.smoothed progress.collector.smoothing held.latency
            (.ofFloat (Float.ofNat (slot.elapsed round))) }) fun _ => rfl
    refine taken.close (fun key => KeyMap.find?_erase _ item.id key) ?_
    rw [List.map_append, ← Multiset.cons_add, Multiset.cons_coe]
    congr 1
    exact Multiset.coe_eq_coe.2 (List.perm_append_singleton _ _)

/-- The items that a poll publishes depart. -/
theorem departs_poll (departs : PoolArbiter.Departs works said 0 gone collector pool)
    (completions : List Completion) (round : Round) :
    PoolArbiter.Departs works said 0
      ((collector.poll completions pool round).yield.results.map (·.work) + gone)
      (collector.poll completions pool round).collector
      (collector.poll completions pool round).pool := by
  have first : PoolArbiter.Departs works said 0
      ((([] : List WorkResult).map (·.work) : List WorkId) + gone) collector pool := by
    simpa using departs
  unfold Collector.poll
  split
  · exact first
  · exact List.foldlRecOn (motive := fun progress : Collector.Progress =>
      PoolArbiter.Departs works said 0 (progress.yield.results.map (·.work) + gone)
        progress.collector progress.pool) _ _ first
      fun _ departs completion _ => departs_accept round completion departs

/-- All published items depart. -/
theorem departed_publishAll (turn : Turn) (results : List WorkResult) :
    ((results.foldl publish turn).log.departed : Multiset WorkId) =
      results.map (·.work) + turn.log.departed := by
  induction results generalizing turn with
  | nil => simp
  | cons result rest inductionHypothesis =>
      rw [List.foldl_cons, inductionHypothesis, departed_publish, List.map_cons,
        ← Multiset.cons_coe, Multiset.cons_add, Multiset.add_cons]

/-- The items of all results depart. -/
theorem Departs.collect (departs : turn.Departs works said 0) (snapshot : Snapshot) :
    (turn.collect snapshot).Departs works said 0 := by
  let polled := turn.controller.collector.poll snapshot.completions turn.controller.pool
    turn.controller.round
  let collected : Turn :=
    { turn with
      controller :=
        { turn.controller with collector := polled.collector, pool := polled.pool } }
  have logged := departs_poll departs.logged snapshot.completions turn.controller.round
  have published := departed_publishAll (collected.countViolations polled.yield.untrusted)
    polled.yield.results
  -- Publishing changes neither the collector nor the pool nor the drops.
  let view (turn : Turn) :=
    (turn.controller.collector, turn.controller.pool, turn.log.drops)
  have unmoved (turn : Turn) (result : WorkResult) : view (turn.publish result) = view turn := rfl
  have kept := view_foldl view unmoved polled.yield.results
    (collected.countViolations polled.yield.untrusted)
  obtain ⟨sameCollector, rest⟩ := Prod.mk.inj kept
  obtain ⟨samePool, sameDrops⟩ := Prod.mk.inj rest
  rw [Turn.collect]
  refine ⟨?_, ?_⟩
  · rw [sameCollector, samePool, published]
    exact logged
  · rw [sameDrops]
    exact departs.reasons

end Collecting

section Excluding

variable {gone : Multiset WorkId} {collector : Collector} {pool : WorkerPool}

/-- The item that is taken from an excluded worker is on its way. -/
theorem departs_exclude {reclaimed : List WorkItem} {worker : WorkerId} {slot : WorkerSlot}
    (sound : pool.Sound) (found : pool.slot? worker = some slot)
    (departs : PoolArbiter.Departs works said (reclaimed.map (·.id)) gone collector pool) :
    PoolArbiter.Departs works said
      ((reclaimed ++ if slot.isActive then slot.item.toList else []).map (·.id)) gone collector
      (pool.update worker fun held => { held.vacate .unavailable with trusted := false }) := by
  have soundSlot := sound.slot (WorkerPool.mem_of_slot? found)
  have held : pool.itemOf? worker = slot.item := by
    rw [WorkerPool.itemOf?, found, Option.bind_some]
  cases holds : slot.item with
  | none =>
      rw [holds] at held
      simpa using departs.vacate held
        (fun held => { held.vacate .unavailable with trusted := false }) fun _ => rfl
  | some item =>
      rw [holds] at held
      have taken := departs.takeBack held
        (fun held => { held.vacate .unavailable with trusted := false }) fun _ => rfl
      rw [if_pos (soundSlot.isActive_of_item holds), Option.toList_some, List.map_append,
        List.map_singleton,
        Multiset.coe_eq_coe.2 (List.perm_append_singleton item.id (reclaimed.map (·.id))),
        ← Multiset.cons_coe]
      exact taken

/-- The items that are taken from excluded workers are on their way. -/
theorem departs_applyReports (sound : pool.Sound)
    (departs : PoolArbiter.Departs works said 0 gone collector pool) (gate : TrustGate)
    (reports : List HealthReport) :
    PoolArbiter.Departs works said
      ((gate.applyReports pool reports).change.reclaimed.map (·.id)) gone collector
      (gate.applyReports pool reports).pool := by
  unfold TrustGate.applyReports
  refine (List.foldlRecOn (motive := fun progress : TrustGate.Progress =>
    progress.pool.Sound ∧ PoolArbiter.Departs works said
      (progress.change.reclaimed.map (·.id)) gone collector progress.pool)
    reports TrustGate.Progress.applyReport (b := ⟨gate, pool, {}⟩) ⟨sound, departs⟩ ?_).2
  rintro progress ⟨sound, departs⟩ report _
  unfold TrustGate.Progress.applyReport
  split
  next => exact ⟨sound, departs⟩
  next slot found =>
    have soundAfter := sound.exclude report.worker
    dsimp only
    split <;> split
    · exact ⟨soundAfter, departs_exclude sound found departs⟩
    · exact ⟨soundAfter, departs_exclude sound found departs⟩
    · exact ⟨sound, departs⟩
    · exact ⟨sound, departs⟩

/-- The items of excluded workers depart. -/
theorem Departs.applyHealth (sound : turn.controller.pool.Sound)
    (departs : turn.Departs works said 0) (snapshot : Snapshot) :
    (turn.applyHealth snapshot).Departs works said 0 := by
  refine Departs.requeueAll ?_
  rw [add_zero]
  exact ⟨departs_applyReports sound departs.logged _ _, departs.reasons⟩

end Excluding

/-- The adaptation lets no item depart. -/
theorem Departs.adapt (departs : turn.Departs works said transit) :
    turn.adapt.Departs works said transit := by
  unfold Turn.adapt
  dsimp only
  split <;> exact ⟨departs.logged, departs.reasons⟩

/-- Assigning leaves the collector as it is. -/
theorem Assigns.collector_eq {turn final : Turn} (assigns : Assigns turn final) :
    final.controller.collector = turn.controller.collector := by
  induction assigns with
  | done => rfl
  | handOver _ _ inductionHypothesis =>
      rw [inductionHypothesis]
      rfl

/-- At the end of a round the verdicts are kept whose items are at work. -/
theorem collector_report (turn : Turn) :
    turn.settleQuality.report.1.collector =
      turn.controller.collector.retainInFlight turn.controller.pool :=
  rfl

end Turn

end PoolArbiter
