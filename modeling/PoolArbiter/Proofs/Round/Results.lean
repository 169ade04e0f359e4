import PoolArbiter.Proofs.Round.Oversight

/-!
# Results and faults of a round

A result is published when a completion is collected or when a worker above the cap
loses its item. Either way the worker held the item when the round began:
`WorkerPool.Yields` says so, and freeing slots in between cannot forge it. The faults
of a round are the workers past their time after its completions.
-/

namespace PoolArbiter

namespace WorkerPool

/-- A result of a round ends an item that its worker holds. -/
structure Yields (pool : WorkerPool) (round : Round) (result : WorkResult) : Prop where
  date : result.completionRound = round
  held : ∃ slot item, pool.slot? result.worker = some slot ∧ slot.item = some item ∧
    (Record.finished result).Closes item

variable {before after pool : WorkerPool} {round : Round} {result : WorkResult}

/-- What freed slots yield the slots before yield as well. -/
theorem Frees.yields (frees : before.Frees after) (yields : after.Yields round result) :
    before.Yields round result := by
  obtain ⟨slot, item, found, holds, closes⟩ := yields.held
  obtain ⟨earlier, present, freed⟩ := frees.slot found
  cases freed with
  | kept => exact ⟨yields.date, slot, item, present, holds, closes⟩
  | freed _ vacant => simp [vacant.item] at holds

/-- Turning busy leaves a worker its item. -/
theorem Yields.of_promote (yields : pool.promote.Yields round result) :
    pool.Yields round result := by
  obtain ⟨slot, item, found, holds, closes⟩ := yields.held
  rw [slot?_promote] at found
  obtain ⟨earlier, present, rfl⟩ := Option.map_eq_some_iff.1 found
  rw [WorkerSlot.promote_eq] at holds
  exact ⟨yields.date, earlier, item, present, holds, closes⟩

/-- A completion that counts yields a result of the item that its worker holds. -/
theorem yields_accept {progress : Collector.Progress} (frees : pool.Frees progress.pool)
    (yields : ∀ result ∈ progress.yield.results, pool.Yields round result)
    (completion : Completion) :
    ∀ result ∈ (progress.accept round completion).yield.results, pool.Yields round result := by
  unfold Collector.Progress.accept
  split
  next => exact yields
  next slot item counts =>
    intro result member
    rcases List.mem_append.1 member with old | new
    · exact yields result old
    · obtain rfl := List.mem_singleton.1 new
      obtain ⟨found, holds, _⟩ := Turn.heldItem?_eq_some counts
      exact frees.yields ⟨rfl, slot, item, found, holds, Record.closes_result _ _ _ _⟩

/-- The results of a poll are yielded by the slots. -/
theorem yields_poll (collector : Collector) (completions : List Completion) (pool : WorkerPool)
    (round : Round) :
    ∀ result ∈ (collector.poll completions pool round).yield.results,
      pool.Yields round result := by
  unfold Collector.poll
  split
  · intro result member
    cases member
  · -- Slots freed by earlier completions yield no result that the first pool would not.
    refine (List.foldlRecOn (motive := fun progress : Collector.Progress =>
      pool.Frees progress.pool ∧ ∀ result ∈ progress.yield.results, pool.Yields round result)
      _ _ ⟨.refl _, ?_⟩ ?_).2
    · intro result member
      cases member
    · rintro progress ⟨frees, yields⟩ completion _
      exact ⟨frees.trans (frees_accept _ _ _), yields_accept frees yields completion⟩

end WorkerPool

/-- What a turn has logged about workers that finished or ran past their time. -/
structure RoundLog.Findings where
  results : List WorkResult
  faulted : List WorkerId

/-- The findings in a log. -/
def RoundLog.findings (log : RoundLog) : Findings where
  results := log.results
  faulted := log.faulted

namespace Turn

section Findings

variable (turn : Turn) (snapshot : Snapshot)

/-- Published results are found. -/
theorem findings_publishAll (results : List WorkResult) :
    (results.foldl publish turn).log.findings =
      { turn.log.findings with results := turn.log.results ++ results } := by
  induction results generalizing turn with
  | nil => simp [RoundLog.findings]
  | cons result rest inductionHypothesis =>
      rw [List.foldl_cons, inductionHypothesis]
      simp [RoundLog.findings, publish]

/-- Queueing an item again finds nothing. -/
@[simp]
theorem findings_requeueOrDrop (item : WorkItem) :
    (turn.requeueOrDrop item).log.findings = turn.log.findings := by
  unfold requeueOrDrop
  dsimp only
  split <;> rfl

/-- Collecting finds the results of the poll. -/
theorem findings_collect :
    (turn.collect snapshot).log.findings =
      { turn.log.findings with
        results := turn.log.results ++
          (turn.controller.collector.poll snapshot.completions turn.controller.pool
            turn.controller.round).yield.results } :=
  findings_publishAll _ _

/-- Taking back a late item finds its worker faulted. -/
theorem findings_reclaimFault (worker : WorkerId) :
    (turn.reclaimFault worker).log.findings =
      { turn.log.findings with faulted := turn.log.faulted ++ [worker] } := by
  unfold reclaimFault
  dsimp only
  split
  · rfl
  · split
    · rfl
    · rw [findings_requeueOrDrop]
      rfl

/-- Taking back late items finds their workers faulted, one by one. -/
theorem findings_reclaimAll (workers : List WorkerId) :
    (workers.foldl reclaimFault turn).log.findings =
      { turn.log.findings with faulted := turn.log.faulted ++ workers } := by
  induction workers generalizing turn with
  | nil => simp [RoundLog.findings]
  | cons worker rest inductionHypothesis =>
      have first := findings_reclaimFault turn worker
      simp only [RoundLog.findings, RoundLog.Findings.mk.injEq] at first
      rw [List.foldl_cons, inductionHypothesis]
      simp [RoundLog.findings, first.1, first.2]

/-- The late workers are found faulted. -/
theorem findings_detectFaults :
    turn.detectFaults.log.findings =
      { turn.log.findings with faulted := turn.log.faulted ++ turn.overdue } :=
  findings_reclaimAll turn turn.overdue

/-- Exclusions find nothing. -/
@[simp]
theorem findings_applyHealth : (turn.applyHealth snapshot).log.findings = turn.log.findings :=
  view_foldl (·.log.findings) findings_requeueOrDrop _ _

/-- A worker above the cap may end its item as exhausted. -/
theorem findings_preempt (worker : WorkerId) :
    (turn.preempt worker).log.findings = turn.log.findings ∨
      ∃ item, turn.controller.pool.itemOf? worker = some item ∧
        (turn.preempt worker).log.findings =
          { turn.log.findings with
            results := turn.log.results ++
              [item.result worker .exhausted turn.controller.round] } := by
  unfold preempt
  dsimp only
  split
  next => exact .inl rfl
  next item holds =>
    split
    · exact .inr ⟨item, holds, rfl⟩
    · exact .inl (findings_requeueOrDrop _ _)

/-- The adaptation finds nothing. -/
@[simp]
theorem findings_adapt : turn.adapt.log.findings = turn.log.findings := by
  unfold adapt
  dsimp only
  split <;> rfl

/-- Assignments find nothing. -/
theorem Assigns.findings_eq {turn final : Turn} (assigns : Assigns turn final) :
    final.log.findings = turn.log.findings := by
  rw [assigns.log_eq]
  rfl

end Findings

/-- The slots of a turn were freed since the round began, its results were yielded by
them, and the faults are some given ones. -/
structure Finds (pool : WorkerPool) (round : Round) (faulted : List WorkerId)
    (turn : Turn) : Prop where
  date : turn.controller.round = round
  frees : pool.Frees turn.controller.pool
  yields : ∀ result ∈ turn.log.findings.results, pool.Yields round result
  faulted : turn.log.findings.faulted = faulted

variable {pool : WorkerPool} {round : Round} {faulted : List WorkerId} {turn : Turn}

/-- Idling a worker over the cap finds its exhausted item at most. -/
theorem Finds.preempt (finds : turn.Finds pool round faulted) (worker : WorkerId) :
    (turn.preempt worker).Finds pool round faulted where
  date := by
    have same := congrArg (·.controller.round) (frame_preempt turn worker)
    exact same.trans finds.date
  frees := by
    rw [pool_preempt]
    exact finds.frees.trans (WorkerPool.frees_update _ _ fun _ _ => .freed rfl ⟨rfl, rfl, rfl, rfl⟩)
  yields := by
    rcases findings_preempt turn worker with same | ⟨item, holds, published⟩
    · rw [same]
      exact finds.yields
    · intro result member
      rw [published] at member
      rcases List.mem_append.1 member with old | new
      · exact finds.yields result old
      · obtain rfl := List.mem_singleton.1 new
        obtain ⟨slot, found, held⟩ := Option.bind_eq_some_iff.1 holds
        exact finds.frees.yields
          ⟨finds.date, slot, item, found, held, Record.closes_result _ _ _ _⟩
  faulted := by
    rcases findings_preempt turn worker with same | ⟨item, _, published⟩
    · rw [same]
      exact finds.faulted
    · rw [published]
      exact finds.faulted

/-- Enforcing the cap finds exhausted items at most. -/
theorem Finds.enforceCap (finds : turn.Finds pool round faulted) (snapshot : Snapshot) :
    (turn.enforceCap snapshot).Finds pool round faulted := by
  let governor :=
    turn.controller.governor.recompute turn.controller.pool.activeCount snapshot.sensor
  have shed : ((governor.excess turn.controller.pool).foldl Turn.preempt
      { turn with controller := { turn.controller with governor := governor } }).Finds
        pool round faulted :=
    List.foldlRecOn _ _ ⟨finds.date, finds.frees, finds.yields, finds.faulted⟩
      fun _ found worker _ => found.preempt worker
  exact ⟨shed.date, shed.frees, shed.yields, shed.faulted⟩

end Turn

namespace Controller

variable {controller : Controller}

/-- After the completions the results are those of the poll. -/
theorem findings_collected (controller : Controller) :
    (∀ result ∈ controller.collected.log.findings.results,
      controller.pool.promote.Yields (controller.round + 1) result) ∧
      controller.collected.log.findings.faulted = [] := by
  rw [collected, Turn.findings_collect]
  exact ⟨WorkerPool.yields_poll _ _ _ _, rfl⟩

/-- Up to the exclusions the results are those of the slots at the start. -/
theorem finds_vetted (controller : Controller) :
    controller.vetted.Finds controller.pool.promote (controller.round + 1)
      controller.collected.overdue := by
  obtain ⟨yields, none⟩ := findings_collected controller
  have same : controller.vetted.log.findings =
      { controller.collected.log.findings with faulted := controller.collected.overdue } := by
    rw [vetted, Turn.findings_applyHealth, inspected, Turn.findings_detectFaults]
    have empty : controller.collected.log.faulted = [] := none
    rw [empty, List.nil_append]
  refine ⟨?_, ?_, ?_, ?_⟩
  · exact congrArg (·.controller.round) (frame_vetted controller)
  · exact (frees_collected controller).trans
      ((frees_inspected controller).trans (frees_vetted controller))
  · rw [same]
    exact yields
  · rw [same]

/-- Up to the cap the results are those of the slots at the start. -/
theorem finds_capped (controller : Controller) :
    controller.capped.Finds controller.pool.promote (controller.round + 1)
      controller.collected.overdue :=
  (finds_vetted controller).enforceCap (Snapshot.ofReports controller.feed)

/-- After the cap a round finds nothing. -/
theorem Sound.findings_runRound (sound : controller.Sound) :
    controller.runRound.2.log.findings = controller.capped.log.findings := by
  rw [runRound_eq, Turn.log_report, (Turn.assignAll_assigns sound.selecting.sound).findings_eq,
    selecting_eq, Turn.findings_adapt]

/-- A round publishes results of items that their workers held when it began. -/
theorem Sound.results_runRound (sound : controller.Sound) :
    ∀ result ∈ controller.runRound.2.log.results,
      controller.pool.Yields (controller.round + 1) result := by
  intro result member
  have published := congrArg RoundLog.Findings.results sound.findings_runRound
  simp only [RoundLog.findings] at published
  rw [published] at member
  exact ((finds_capped controller).yields result member).of_promote

/-- The faults of a round are the workers past their time after its completions. -/
theorem Sound.faulted_runRound (sound : controller.Sound) :
    controller.runRound.2.log.faulted = controller.collected.overdue := by
  have found := congrArg RoundLog.Findings.faulted sound.findings_runRound
  rw [(finds_capped controller).faulted] at found
  simpa only [RoundLog.findings] using found

end Controller

end PoolArbiter
