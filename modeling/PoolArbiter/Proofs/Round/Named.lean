import PoolArbiter.Proofs.Round.Results
import PoolArbiter.Proofs.Trust.Gate

/-!
# Slots that a report names

A round changes a slot only if its report names the worker: as one that published a
result, ran past its time, was excluded or idled, or was handed an item. Any other slot
turns busy at most. Each phase has a lemma of this form, and the report keeps what the
phases log.
-/

namespace PoolArbiter

/-- The workers that a log names. -/
def RoundLog.named (log : RoundLog) : List WorkerId :=
  log.assignments.map (·.worker) ++ log.results.map (·.worker) ++ log.faulted ++ log.excluded ++
    log.forcedIdle

namespace Collector

variable {worker : WorkerId}

/-- A slot stays as it is if no result names its worker. -/
theorem slot?_accept {pool : WorkerPool} {progress : Progress}
    (same : worker ∉ progress.yield.results.map (·.worker) →
      progress.pool.slot? worker = pool.slot? worker)
    (round : Round) (completion : Completion)
    (unnamed : worker ∉ (progress.accept round completion).yield.results.map (·.worker)) :
    (progress.accept round completion).pool.slot? worker = pool.slot? worker := by
  unfold Progress.accept at unnamed ⊢
  split at unnamed
  next missed =>
    dsimp only
    exact same unnamed
  next slot item counts =>
    dsimp only
    rw [List.map_append, List.mem_append, not_or] at unnamed
    have other : completion.worker ≠ worker := fun equal =>
      unnamed.2 (List.mem_singleton.2 equal.symm)
    rw [WorkerPool.slot?_update, if_neg other]
    exact same unnamed.1

/-- A poll changes the slots of the workers that it yields results of. -/
theorem slot?_poll (collector : Collector) (completions : List Completion) (pool : WorkerPool)
    (round : Round)
    (unnamed : worker ∉ (collector.poll completions pool round).yield.results.map (·.worker)) :
    (collector.poll completions pool round).pool.slot? worker = pool.slot? worker := by
  revert unnamed
  unfold poll
  split
  · exact fun _ => rfl
  · refine List.foldlRecOn (motive := fun progress : Progress =>
      worker ∉ progress.yield.results.map (·.worker) →
        progress.pool.slot? worker = pool.slot? worker) _ _
      (b := ⟨collector, pool, _⟩) (fun _ => rfl) ?_
    intro progress same completion _
    exact slot?_accept same round completion

end Collector

/-- Health reports change the slots of the workers that they exclude. -/
theorem TrustGate.slot?_applyReports (gate : TrustGate) (pool : WorkerPool)
    (reports : List HealthReport) {worker : WorkerId}
    (unnamed : worker ∉ (gate.applyReports pool reports).change.excluded) :
    (gate.applyReports pool reports).pool.slot? worker = pool.slot? worker := by
  revert unnamed
  unfold applyReports
  refine List.foldlRecOn (motive := fun progress : Progress =>
    worker ∉ progress.change.excluded → progress.pool.slot? worker = pool.slot? worker) _ _
    (fun _ => rfl) ?_
  intro progress same report _ unnamed
  rcases progress.applyReport_cases report with
    ⟨samePool, _, sameChange⟩ | ⟨_, _, _, updated, _, change⟩
  · rw [sameChange] at unnamed
    rw [samePool, same unnamed]
  · rw [change, List.mem_append, not_or] at unnamed
    have other : report.worker ≠ worker := fun equal =>
      unnamed.2 (List.mem_singleton.2 equal.symm)
    rw [updated, WorkerPool.slot?_update, if_neg other, same unnamed.1]

namespace Turn

variable {turn final : Turn} {worker : WorkerId}

/-- Assigning changes the slots of the workers that are handed an item. -/
theorem Assigns.slot?_eq (assigns : Assigns turn final)
    (unnamed : worker ∉ final.log.assignments.map (·.worker)) :
    final.controller.pool.slot? worker = turn.controller.pool.slot? worker := by
  -- What was assigned once is listed at the end.
  have kept {turn final : Turn} (assigns : Assigns turn final) :
      turn.log.assignments ⊆ final.log.assignments := by
    induction assigns with
    | done => exact List.Subset.refl _
    | handOver _ _ inductionHypothesis =>
        exact List.Subset.trans (List.subset_append_left _ _) inductionHypothesis
  induction assigns with
  | done => rfl
  | @handOver turn selection final _ rest inductionHypothesis =>
      have listed : turn.assignmentOf selection ∈ final.log.assignments :=
        kept rest (List.mem_append_right _ (List.mem_singleton.2 rfl))
      have other : selection.worker ≠ worker := fun equal =>
        unnamed (List.mem_map.2 ⟨_, listed, equal⟩)
      rw [inductionHypothesis unnamed, slot?_handOver, if_neg other]

/-- Workers above the cap end their items as exhausted, if they end them at all. -/
theorem results_enforceCap (turn : Turn) (snapshot : Snapshot) :
    ∃ ended, (turn.enforceCap snapshot).log.results = turn.log.results ++ ended ∧
      ∀ result ∈ ended, result.outcome = .exhausted := by
  refine List.foldlRecOn (motive := fun capped : Turn => ∃ ended,
      capped.log.results = turn.log.results ++ ended ∧
        ∀ result ∈ ended, result.outcome = .exhausted)
    ((turn.controller.governor.recompute turn.controller.pool.activeCount
      snapshot.sensor).excess turn.controller.pool) Turn.preempt ⟨[], by simp⟩ ?_
  rintro capped ⟨ended, results, exhausted⟩ worker _
  rcases findings_preempt capped worker with same | ⟨item, _, published⟩
  · have kept := congrArg RoundLog.Findings.results same
    simp only [RoundLog.findings] at kept
    exact ⟨ended, kept.trans results, exhausted⟩
  · have added := congrArg RoundLog.Findings.results published
    simp only [RoundLog.findings] at added
    refine ⟨ended ++ [item.result worker .exhausted capped.controller.round], ?_, ?_⟩
    · rw [added, results, List.append_assoc]
    · intro result member
      rcases List.mem_append.1 member with old | new
      · exact exhausted result old
      · rw [List.mem_singleton.1 new]
        rfl

end Turn

namespace Controller

variable {controller : Controller} {worker : WorkerId}

/-- A round reports the results of the completions, and then items that ended above the
cap. -/
theorem Sound.results_runRound_eq (sound : controller.Sound) :
    ∃ ended, controller.runRound.2.log.results = controller.collected.log.results ++ ended ∧
      ∀ result ∈ ended, result.outcome = .exhausted := by
  have vetted : controller.vetted.log.results = controller.collected.log.results := by
    have same : controller.vetted.log.findings.results =
        controller.collected.log.findings.results := by
      rw [Controller.vetted, Turn.findings_applyHealth, Controller.inspected,
        Turn.findings_detectFaults]
    exact same
  have final := congrArg RoundLog.Findings.results sound.findings_runRound
  simp only [RoundLog.findings] at final
  rw [final, ← vetted]
  exact Turn.results_enforceCap _ _

/-- The collected results are among those of the round. -/
theorem Sound.results_collected_subset (sound : controller.Sound) :
    controller.collected.log.results ⊆ controller.runRound.2.log.results := by
  obtain ⟨ended, results, _⟩ := sound.results_runRound_eq
  rw [results]
  exact List.subset_append_left _ _

/-- The hits of a report are those of the completions. -/
theorem Sound.found_runRound (sound : controller.Sound) :
    controller.runRound.2.log.results.filter (·.outcome.isFound) =
      controller.collected.log.results.filter (·.outcome.isFound) := by
  obtain ⟨ended, results, exhausted⟩ := sound.results_runRound_eq
  have none : ended.filter (·.outcome.isFound) = [] :=
    List.filter_eq_nil_iff.2 fun result member => by
      rw [exhausted result member]
      exact Bool.false_ne_true
  rw [results, List.filter_append, none, List.append_nil]

/-- A slot whose worker the report does not name turns busy at most. -/
theorem Sound.slot?_runRound (sound : controller.Sound)
    (unnamed : worker ∉ controller.runRound.2.log.named) :
    controller.runRound.1.pool.slot? worker =
      (controller.pool.slot? worker).map WorkerSlot.promote := by
  simp only [RoundLog.named, List.mem_append, not_or] at unnamed
  obtain ⟨⟨⟨⟨unassigned, unfinished⟩, inTime⟩, trusted⟩, spared⟩ := unnamed
  have collected : controller.collected.controller.pool.slot? worker =
      controller.pool.promote.slot? worker := by
    rw [Controller.collected, Turn.pool_collect]
    refine Collector.slot?_poll _ _ _ _ fun listed => unfinished ?_
    refine List.map_subset _ sound.results_collected_subset ?_
    have polled := congrArg RoundLog.Findings.results (Turn.findings_collect
      (controller.beginRound.settleVerdicts (Snapshot.ofReports controller.feed))
      (Snapshot.ofReports controller.feed))
    simp only [RoundLog.findings] at polled
    rw [Controller.collected, polled]
    exact listed
  have inspected : controller.inspected.controller.pool.slot? worker =
      controller.collected.controller.pool.slot? worker := by
    rw [sound.faulted_runRound] at inTime
    rw [Controller.inspected, Turn.pool_detectFaults, WorkerPool.slot?_releaseAll, if_neg inTime]
  have vetted : controller.vetted.controller.pool.slot? worker =
      controller.inspected.controller.pool.slot? worker := by
    rw [sound.excluded_runRound] at trusted
    rw [Controller.vetted, Turn.pool_applyHealth, TrustGate.slot?_applyReports _ _ _ trusted]
  have capped : controller.selecting.controller.pool.slot? worker =
      controller.vetted.controller.pool.slot? worker := by
    rw [sound.forcedIdle_runRound] at spared
    rw [selecting_eq, Turn.pool_adapt, capped, Turn.pool_enforceCap,
      WorkerPool.slot?_releaseAll, ← Controller.capped, if_neg spared]
  rw [runRound_eq, Turn.log_report] at unassigned
  rw [pool_runRound, (Turn.assignAll_assigns sound.selecting.sound).slot?_eq unassigned, capped,
    vetted, inspected, collected, WorkerPool.slot?_promote]

end Controller

end PoolArbiter
