import PoolArbiter.Proofs.Custody.Basic
import PoolArbiter.Proofs.Round.Frame

/-!
# Custody through a round

`Turn.Keeps items transit` says that a turn, with the items in `transit` on their
way, accounts for the items that were live when the round began. Each phase takes
items out of slots or queues and puts every one of them into exactly one other
place, so that none is on its way when the phase ends.
-/

namespace PoolArbiter

namespace RoundLog

variable {log next : RoundLog}

/-- A further result adds its record. -/
theorem records_of_result {result : WorkResult} (results : next.results = log.results ++ [result])
    (drops : next.drops = log.drops) : next.records.Perm (.finished result :: log.records) := by
  simp only [records, results, drops, List.map_append, List.map_cons, List.map_nil,
    List.append_assoc, List.singleton_append]
  exact List.perm_middle

/-- A further drop adds its record. -/
theorem records_of_drop {drop : DropRecord} (results : next.results = log.results)
    (drops : next.drops = log.drops ++ [drop]) :
    next.records.Perm (.dropped drop :: log.records) := by
  simp only [records, results, drops, List.map_append, List.map_cons, List.map_nil,
    ← List.append_assoc]
  exact List.perm_append_singleton _ _

end RoundLog

namespace Turn

/-- A turn accounts for some items by its queues, its pool, the items on their way
and its records. -/
abbrev Keeps (turn : Turn) (items transit : Multiset WorkItem) : Prop :=
  Custody items transit turn.controller.queues turn.controller.pool turn.log.records

variable {turn : Turn} {items transit : Multiset WorkItem} {item : WorkItem}

section Ends

/-- Publishing closes the item in transit. -/
theorem Keeps.publish (keeps : turn.Keeps items (item ::ₘ transit)) {result : WorkResult}
    (closes : (Record.finished result).Closes item) :
    (turn.publish result).Keeps items transit :=
  Custody.close keeps closes (RoundLog.records_of_result rfl rfl)

/-- Each result that is published ends one of the items on their way. -/
theorem Keeps.publishAll {results : List WorkResult} {freed : List WorkItem}
    (closes : List.Forall₂ (fun result item => (Record.finished result).Closes item)
      results freed)
    (keeps : turn.Keeps items (freed + transit)) :
    (results.foldl Turn.publish turn).Keeps items transit := by
  induction closes generalizing turn with
  | nil => simpa using keeps
  | cons first _ inductionHypothesis =>
      rw [List.foldl_cons]
      apply inductionHypothesis
      apply Keeps.publish _ first
      rwa [← Multiset.cons_add, Multiset.cons_coe]

/-- Dropping closes the item in transit. -/
theorem Keeps.recordDrop (keeps : turn.Keeps items (item ::ₘ transit)) (reason : DropReason) :
    (turn.recordDrop item reason).Keeps items transit :=
  Custody.close keeps (Record.closes_dropRecord item reason turn.controller.round)
    (RoundLog.records_of_drop rfl rfl)

/-- The item in transit is queued again or dropped. -/
theorem Keeps.requeueOrDrop (keeps : turn.Keeps items (item ::ₘ transit)) :
    (turn.requeueOrDrop item).Keeps items transit := by
  unfold Turn.requeueOrDrop
  dsimp only
  split
  next accepted => exact Custody.requeue keeps accepted
  next => exact Keeps.recordDrop keeps .queueFull

/-- All items in transit are queued again or dropped. -/
theorem Keeps.requeueAll {reclaimed : List WorkItem}
    (keeps : turn.Keeps items (reclaimed + transit)) :
    (reclaimed.foldl Turn.requeueOrDrop turn).Keeps items transit := by
  induction reclaimed generalizing turn with
  | nil => simpa using keeps
  | cons item _ inductionHypothesis =>
      rw [List.foldl_cons]
      apply inductionHypothesis
      apply Keeps.requeueOrDrop
      rwa [← Multiset.cons_add, Multiset.cons_coe]

end Ends

section Collecting

/-- A completion counts if its worker is at work on an item. -/
theorem heldItem?_eq_some {pool : WorkerPool} {completion : Completion} {slot : WorkerSlot}
    (counts : Collector.heldItem? pool completion = some (slot, item)) :
    pool.slot? completion.worker = some slot ∧ slot.item = some item ∧ slot.isActive = true := by
  simp only [Collector.heldItem?, Option.bind_eq_bind, Option.bind_eq_some_iff,
    Option.ite_none_right_eq_some, Option.some.injEq, Prod.mk.injEq] at counts
  obtain ⟨_, found, _, holds, named, rfl, rfl⟩ := counts
  simp only [Bool.and_eq_true] at named
  exact ⟨found, holds, named.1⟩

/-- The results of a poll end the items that it freed, one each. -/
def Collects (items : Multiset WorkItem) (queues : AdmissionQueues) (records : List Record)
    (progress : Collector.Progress) : Prop :=
  ∃ freed : List WorkItem,
    List.Forall₂ (fun result item => (Record.finished result).Closes item)
      progress.yield.results freed ∧
      Custody items freed queues progress.pool records

/-- Accepting a completion keeps every item. -/
theorem Collects.accept {queues : AdmissionQueues} {records : List Record}
    {progress : Collector.Progress} (collects : Collects items queues records progress)
    (round : Round) (completion : Completion) :
    Collects items queues records (progress.accept round completion) := by
  unfold Collector.Progress.accept
  split
  next => exact collects
  next slot item counts =>
    obtain ⟨freed, closes, custody⟩ := collects
    obtain ⟨found, holds, active⟩ := heldItem?_eq_some counts
    refine ⟨freed ++ [item], List.rel_append closes (.cons ⟨rfl, rfl, rfl⟩ .nil), ?_⟩
    rw [Multiset.coe_eq_coe.2 (List.perm_append_singleton item freed), ← Multiset.cons_coe]
    have sound := custody.sound.slot (WorkerPool.mem_of_slot? found)
    exact custody.takeBack found holds (fun _ => rfl)
      ((sound.vacate_idle (sound.trusted_of_isActive active)).withFigures _ _) rfl

/-- A poll keeps every item. -/
theorem Collects.poll {queues : AdmissionQueues} {pool : WorkerPool} {records : List Record}
    (custody : Custody items 0 queues pool records) (collector : Collector)
    (completions : List Completion) (round : Round) :
    Collects items queues records (collector.poll completions pool round) := by
  unfold Collector.poll
  split
  · exact ⟨[], .nil, custody⟩
  · apply List.foldlRecOn
    · exact ⟨[], .nil, custody⟩
    · intro progress collects completion _
      exact collects.accept round completion

/-- Collecting keeps every item. -/
theorem Keeps.collect (keeps : turn.Keeps items 0) (snapshot : Snapshot) :
    (turn.collect snapshot).Keeps items 0 := by
  obtain ⟨freed, closes, custody⟩ :=
    Collects.poll keeps turn.controller.collector snapshot.completions turn.controller.round
  refine Keeps.publishAll closes ?_
  rw [add_zero]
  exact custody

end Collecting

section Releasing

variable {worker : WorkerId}

/-- Taking back the item of a late worker keeps every item. -/
theorem Keeps.reclaimFault (keeps : turn.Keeps items transit)
    (trusts : turn.controller.pool.Trusts worker) :
    (turn.reclaimFault worker).Keeps items transit := by
  have released := Custody.release keeps trusts
  unfold Turn.reclaimFault
  dsimp only
  split
  next free =>
    rw [free] at released
    exact released
  next item holds =>
    rw [holds] at released
    split
    · exact Keeps.recordDrop released .retriesExhausted
    · exact Keeps.requeueOrDrop released

/-- Idling a worker over the cap keeps every item. -/
theorem Keeps.preempt (keeps : turn.Keeps items transit)
    (trusts : turn.controller.pool.Trusts worker) :
    (turn.preempt worker).Keeps items transit := by
  have released := Custody.release keeps trusts
  unfold Turn.preempt
  dsimp only
  split
  next free =>
    rw [free] at released
    exact released
  next item holds =>
    rw [holds] at released
    split
    · exact Keeps.publish released (Record.closes_result item worker .exhausted _)
    · exact Keeps.requeueOrDrop released

/-- Publishing leaves the workers alone. -/
theorem pool_publish (turn : Turn) (result : WorkResult) :
    (turn.publish result).controller.pool = turn.controller.pool :=
  rfl

/-- Queueing an item again leaves the workers alone. -/
@[simp]
theorem pool_requeueOrDrop (turn : Turn) (item : WorkItem) :
    (turn.requeueOrDrop item).controller.pool = turn.controller.pool := by
  unfold Turn.requeueOrDrop
  dsimp only
  split <;> rfl

/-- A late worker is idled. -/
theorem pool_reclaimFault (turn : Turn) (worker : WorkerId) :
    (turn.reclaimFault worker).controller.pool = turn.controller.pool.release worker .idle := by
  unfold Turn.reclaimFault
  dsimp only
  split
  · rfl
  · split
    · rfl
    · rw [pool_requeueOrDrop]

/-- A worker over the cap is idled. -/
theorem pool_preempt (turn : Turn) (worker : WorkerId) :
    (turn.preempt worker).controller.pool = turn.controller.pool.release worker .idle := by
  unfold Turn.preempt
  dsimp only
  split
  · rfl
  · split
    · rfl
    · rw [pool_requeueOrDrop]

/-- Late workers are trusted. -/
theorem trusts_of_mem_overdue (sound : turn.controller.pool.Sound) :
    ∀ worker ∈ (turn.controller.pool.slots.filter
      (isOverdue turn.controller.config.pool turn.controller.round)).map (·.id),
      turn.controller.pool.Trusts worker := by
  intro worker member
  obtain ⟨slot, overdue, rfl⟩ := List.mem_map.1 member
  obtain ⟨present, late⟩ := List.mem_filter.1 overdue
  simp only [isOverdue, Bool.and_eq_true] at late
  exact sound.trusts_of_isActive present late.1

/-- Looking for late workers keeps every item. -/
theorem Keeps.detectFaults (keeps : turn.Keeps items 0) : turn.detectFaults.Keeps items 0 :=
  WorkerPool.foldl_release (fun turn : Turn => turn.controller.pool)
    (motive := fun turn => turn.Keeps items 0) Keeps.reclaimFault pool_reclaimFault keeps
    (trusts_of_mem_overdue keeps.sound)

/-- Workers over the cap are trusted. -/
theorem trusts_of_mem_excess {pool : WorkerPool} (sound : pool.Sound) (governor : Governor) :
    ∀ worker ∈ governor.excess pool, pool.Trusts worker :=
  fun _ member => sound.trusts_of_mem_activeDescending (List.mem_of_mem_take member)

/-- Enforcing the cap keeps every item. -/
theorem Keeps.enforceCap (keeps : turn.Keeps items 0) (snapshot : Snapshot) :
    (turn.enforceCap snapshot).Keeps items 0 :=
  WorkerPool.foldl_release (fun turn : Turn => turn.controller.pool)
    (motive := fun turn => turn.Keeps items 0) Keeps.preempt pool_preempt keeps
    (trusts_of_mem_excess keeps.sound _)

end Releasing

section Excluding

variable {queues : AdmissionQueues} {pool : WorkerPool} {records : List Record}
  {reclaimed : List WorkItem}

/-- The item of an excluded worker is taken back. -/
theorem custody_exclude {worker : WorkerId} {slot : WorkerSlot}
    (custody : Custody items reclaimed queues pool records)
    (found : pool.slot? worker = some slot) :
    Custody items
      ((reclaimed ++ if slot.isActive then slot.item.toList else [] : List WorkItem)) queues
      (pool.update worker fun held => { held.vacate .unavailable with trusted := false })
      records := by
  have sound := custody.sound.slot (WorkerPool.mem_of_slot? found)
  cases holds : slot.item with
  | none =>
      have kept : Custody items reclaimed queues
          (pool.update worker fun held => { held.vacate .unavailable with trusted := false })
          records :=
        custody.alter found (fun _ => rfl) (WorkerSlot.sound_exclude slot) holds.symm
      simpa using kept
  | some item =>
      rw [if_pos (sound.isActive_of_item holds), Option.toList_some,
        Multiset.coe_eq_coe.2 (List.perm_append_singleton item reclaimed), ← Multiset.cons_coe]
      exact custody.takeBack found holds (fun _ => rfl) (WorkerSlot.sound_exclude slot) rfl

/-- Health reports pass the items of excluded workers on. -/
theorem custody_applyReports (custody : Custody items 0 queues pool records) (gate : TrustGate)
    (reports : List HealthReport) :
    Custody items (gate.applyReports pool reports).change.reclaimed queues
      (gate.applyReports pool reports).pool records := by
  unfold TrustGate.applyReports
  apply List.foldlRecOn (motive := fun progress : TrustGate.Progress =>
    Custody items progress.change.reclaimed queues progress.pool records)
  · exact custody
  · intro progress custody report _
    unfold TrustGate.Progress.applyReport
    split
    next => exact custody
    next slot found =>
      dsimp only
      split <;> split
      · exact custody_exclude custody found
      · exact custody_exclude custody found
      · exact custody
      · exact custody

/-- Exclusions keep every item. -/
theorem Keeps.applyHealth (keeps : turn.Keeps items 0) (snapshot : Snapshot) :
    (turn.applyHealth snapshot).Keeps items 0 := by
  refine Keeps.requeueAll ?_
  rw [add_zero]
  exact custody_applyReports keeps turn.controller.gate snapshot.health

end Excluding

section Assigning

/-- An assignment keeps every item. -/
theorem Keeps.handOver {selection : Policy.Selection} (keeps : turn.Keeps items transit)
    (selected : turn.selection? = some selection) :
    (turn.handOver selection).Keeps items transit where
  sound := sound_handOver keeps.sound selected
  sorted := by
    obtain ⟨_, _, ⟨tier, _, popped⟩, _⟩ := Policy.select?_eq_some selected
    exact (keeps.sorted.popFrom? popped).1
  accounted := by
    have accounted := keeps.accounted
    rw [contents_handOver selected, Multiset.cons_add, ← Multiset.add_cons,
      ← held_handOver keeps.sound selected] at accounted
    exact accounted

/-- Any number of assignments keep every item. -/
theorem Keeps.assigns {final : Turn} (keeps : turn.Keeps items transit)
    (assigns : Assigns turn final) : final.Keeps items transit := by
  induction assigns with
  | done => exact keeps
  | handOver selected _ inductionHypothesis =>
      exact inductionHypothesis (keeps.handOver selected)

end Assigning

/-- The adaptation keeps every item. -/
theorem Keeps.adapt (keeps : turn.Keeps items transit) : turn.adapt.Keeps items transit := by
  unfold Turn.adapt
  dsimp only
  split <;> exact keeps

/-- The report hands out the records of the turn. -/
theorem Keeps.report (keeps : turn.Keeps items 0) :
    Custody items 0 turn.settleQuality.report.1.queues turn.settleQuality.report.1.pool
      turn.settleQuality.report.2.log.records :=
  Custody.withGuard keeps _

end Turn

namespace Controller

/-- The items that are queued or in flight. -/
def live (controller : Controller) : Multiset WorkItem :=
  controller.queues.contents + controller.pool.held

/-- What a worker holds is live. -/
theorem mem_live_of_holds {controller : Controller} {slot : WorkerSlot} {item : WorkItem}
    (present : slot ∈ controller.pool.slots) (holds : slot.item = some item) :
    item ∈ controller.live :=
  Multiset.mem_add.2 (.inr (WorkerPool.mem_gather.2 ⟨slot, present, holds⟩))

/-- A controller between two operations accounts for its own live items. -/
structure Sound (controller : Controller) : Prop where
  pool : controller.pool.Sound
  queues : controller.queues.Sorted

variable {controller : Controller}

/-- At the beginning of a round every item is kept. -/
theorem Sound.beginRound (sound : controller.Sound) :
    controller.beginRound.Keeps controller.live 0 where
  sound := sound.pool.promote
  sorted := sound.queues
  accounted := by
    have same : controller.beginRound.controller.pool.held = controller.pool.held :=
      WorkerPool.held_promote controller.pool
    rw [same, zero_add]
    exact Accounted.refl controller.live

/-- After the collection every item is kept. -/
theorem Sound.collected (sound : controller.Sound) :
    controller.collected.Keeps controller.live 0 := by
  have verdicts : (controller.beginRound.settleVerdicts
      (Snapshot.ofReports controller.feed)).Keeps controller.live 0 := sound.beginRound
  exact verdicts.collect _

/-- After the search for late workers every item is kept. -/
theorem Sound.inspected (sound : controller.Sound) :
    controller.inspected.Keeps controller.live 0 :=
  sound.collected.detectFaults

/-- After the exclusions every item is kept. -/
theorem Sound.vetted (sound : controller.Sound) :
    controller.vetted.Keeps controller.live 0 :=
  sound.inspected.applyHealth _

/-- Before the assignments every item is kept. -/
theorem Sound.selecting (sound : controller.Sound) :
    controller.selecting.Keeps controller.live 0 :=
  (sound.vetted.enforceCap _).adapt

/-- Of the items that are live before a round each is live afterwards or is closed
by one record of the report. -/
theorem Sound.runRound (sound : controller.Sound) :
    Custody controller.live 0 controller.runRound.1.queues controller.runRound.1.pool
      controller.runRound.2.log.records := by
  have selecting := sound.selecting
  have assigned := selecting.assigns (Turn.assignAll_assigns selecting.sound)
  rw [runRound_eq]
  exact assigned.report

/-- At the end of a round the cap is reached, no item waits, or no worker is free. -/
theorem Sound.exhausted_runRound (sound : controller.Sound) :
    controller.runRound.1.governor.state.activeCap ≤ controller.runRound.1.pool.activeCount ∨
      controller.runRound.1.queues.contents = 0 ∨
      controller.runRound.1.pool.eligibleSlots = [] := by
  have exhausted := (Turn.assignAll_assigns sound.selecting.sound).exhausted
  rw [runRound_eq]
  exact Turn.exhausted_report exhausted

/-- What a round leaves alone. -/
theorem Sound.frame_runRound (sound : controller.Sound) :
    controller.runRound.1.frame =
      { controller.frame with
        round := controller.round + 1
        feed := []
        adaptation := controller.selecting.controller.adaptation
        guard := controller.runRound.1.queues.guard } := by
  have assigned := (Turn.assignAll_assigns sound.selecting.sound).frame_eq
  have selected := congrArg (·.controller) (frame_selecting controller)
  simp only [Turn.frame] at selected
  rw [selected] at assigned
  rw [runRound_eq, Turn.frame_report, assigned]

/-- A round leaves the configuration as it is. -/
theorem Sound.config_runRound (sound : controller.Sound) :
    controller.runRound.1.config = controller.config := by
  have same := congrArg Frame.config sound.frame_runRound
  simpa only [frame] using same

/-- A round is counted. -/
theorem Sound.round_runRound (sound : controller.Sound) :
    controller.runRound.1.round = controller.round + 1 := by
  have same := congrArg Frame.round sound.frame_runRound
  simpa only [frame] using same

/-- A round reads the whole feed. -/
theorem Sound.feed_runRound (sound : controller.Sound) :
    controller.runRound.1.feed = [] := by
  have same := congrArg Frame.feed sound.frame_runRound
  simpa only [frame] using same

end Controller

end PoolArbiter
