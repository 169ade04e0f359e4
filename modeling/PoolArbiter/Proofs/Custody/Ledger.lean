import PoolArbiter.Proofs.Custody.Recall
import PoolArbiter.Proofs.Round.Books

/-!
# The ledger

The ledger counts what the answers say: `Ledger.Counts` states this of the results, the
drops and the number of assignments that were given back. The counts balance against
the items that were admitted, because each of those is live or closed by one record,
and against the assignments, because each item that leaves its worker is logged once.
-/

namespace PoolArbiter

/-- A step's records are its results and its drops. -/
theorem Step.length_records (step : Step) :
    step.records.length = step.results.length + step.drops.length := by
  obtain ⟨operation, round, answer⟩ := step
  cases answer with
  | reported report => simp [records, results, drops, RoundLog.records]
  | withdrawn outcome => cases outcome <;> rfl
  | drained dropped => simp [records, results, drops]
  | _ => rfl

/-- The records of a history are its results and its drops. -/
theorem History.length_records (history : History) :
    history.records.length = history.results.length + history.drops.length := by
  induction history with
  | nil => rfl
  | cons step rest inductionHypothesis =>
      simp only [records, results, drops, List.flatMap_cons, List.length_append] at *
      rw [inductionHypothesis, step.length_records]
      omega

namespace Ledger

/-- A ledger counts some results, drops and assignments. -/
structure Counts (ledger : Ledger) (results : List WorkResult) (drops : List DropRecord)
    (assigned : Nat) : Prop where
  found : ledger.found = results.countP (·.outcome.isFound)
  exhausted : ledger.exhausted = results.countP (!·.outcome.isFound)
  completed : ∀ tier, ledger.completed.get tier = results.countP (·.tier = tier)
  drops : ∀ reason, ledger.drops.get reason = drops.countP (·.reason = reason)
  assigned : ledger.assigned = assigned

variable {ledger : Ledger} {results : List WorkResult} {drops : List DropRecord} {assigned : Nat}

/-- The ledger counts a published result. -/
theorem Counts.recordResult (counts : ledger.Counts results drops assigned) (result : WorkResult) :
    (ledger.recordResult result).Counts (results ++ [result]) drops assigned where
  found := by
    rw [List.countP_append, List.countP_singleton, ← counts.found]
    rfl
  exhausted := by
    rw [List.countP_append, List.countP_singleton, ← counts.exhausted]
    cases found : result.outcome.isFound <;> simp [Ledger.recordResult, found]
  completed := by
    intro tier
    rw [List.countP_append, List.countP_singleton, ← counts.completed tier,
      Ledger.recordResult, PerTier.get_set]
    by_cases same : tier = result.tier <;> simp [same, eq_comm]
  drops := counts.drops
  assigned := counts.assigned

/-- The ledger counts all published results. -/
theorem Counts.recordResults (counts : ledger.Counts results drops assigned)
    (more : List WorkResult) :
    (ledger.recordResults more).Counts (results ++ more) drops assigned := by
  unfold Ledger.recordResults
  induction more generalizing ledger results with
  | nil => simpa using counts
  | cons result rest inductionHypothesis =>
      have next := inductionHypothesis (counts.recordResult result)
      rwa [List.append_assoc] at next

/-- The ledger counts a drop under its reason. -/
theorem Counts.recordDrop (counts : ledger.Counts results drops assigned) (drop : DropRecord) :
    (ledger.recordDrop drop).Counts results (drops ++ [drop]) assigned where
  found := counts.found
  exhausted := counts.exhausted
  completed := counts.completed
  drops := by
    intro reason
    rw [List.countP_append, List.countP_singleton, ← counts.drops reason, Ledger.recordDrop,
      DropCounts.get_increment]
    by_cases same : reason = drop.reason <;> simp [same, eq_comm]
  assigned := counts.assigned

/-- The ledger counts all drops. -/
theorem Counts.recordDrops (counts : ledger.Counts results drops assigned)
    (more : List DropRecord) :
    (ledger.recordDrops more).Counts results (drops ++ more) assigned := by
  unfold Ledger.recordDrops
  induction more generalizing ledger drops with
  | nil => simpa using counts
  | cons drop rest inductionHypothesis =>
      have next := inductionHypothesis (counts.recordDrop drop)
      rwa [List.append_assoc] at next

/-- Closing the books of a round counts what it logged. -/
theorem Counts.account (counts : ledger.Counts results drops assigned) (log : RoundLog)
    (controller : Controller) :
    (Turn.account ledger log controller).Counts (results ++ log.results) (drops ++ log.drops)
      (assigned + log.assignments.length) := by
  have counted := (counts.recordResults log.results).recordDrops log.drops
  refine ⟨counted.found, counted.exhausted, counted.completed, counted.drops, ?_⟩
  rw [← counts.assigned]
  rfl

/-- A result is a hit or not. -/
theorem Counts.found_add_exhausted (counts : ledger.Counts results drops assigned) :
    ledger.found + ledger.exhausted = results.length := by
  rw [counts.found, counts.exhausted, List.length_eq_countP_add_countP (·.outcome.isFound)]
  simp

/-- Each result is one of its tier. -/
theorem sum_countP_tier (results : List WorkResult) :
    (Tier.all.map fun tier => results.countP (·.tier = tier)).sum = results.length := by
  induction results with
  | nil => rfl
  | cons result rest inductionHypothesis =>
      simp only [Tier.all, List.map_cons, List.map_nil, List.sum_cons, List.sum_nil,
        List.countP_cons, List.length_cons] at inductionHypothesis ⊢
      cases result.tier <;> simp <;> omega

/-- Each drop has one reason. -/
theorem sum_countP_reason (drops : List DropRecord) :
    (DropReason.all.map fun reason => drops.countP (·.reason = reason)).sum = drops.length := by
  induction drops with
  | nil => rfl
  | cons drop rest inductionHypothesis =>
      simp only [DropReason.all, List.map_cons, List.map_nil, List.sum_cons, List.sum_nil,
        List.countP_cons, List.length_cons] at inductionHypothesis ⊢
      cases drop.reason <;> simp <;> omega

/-- The results of all tiers together are all results. -/
theorem Counts.total_completed (counts : ledger.Counts results drops assigned) :
    ledger.completed.total = results.length :=
  calc
    ledger.completed.total = (Tier.all.map ledger.completed.get).sum := by
      simp only [PerTier.total, Tier.all, List.map_cons, List.map_nil, List.sum_cons,
        List.sum_nil, PerTier.get]
      omega
    _ = (Tier.all.map fun tier => results.countP (·.tier = tier)).sum := by
      rw [funext counts.completed]
    _ = results.length := sum_countP_tier results

/-- The drops for all reasons together are all drops. -/
theorem Counts.total_drops (counts : ledger.Counts results drops assigned) :
    ledger.drops.total = drops.length :=
  calc
    ledger.drops.total = (DropReason.all.map ledger.drops.get).sum := by
      simp only [DropCounts.total, DropReason.all, List.map_cons, List.map_nil, List.sum_cons,
        List.sum_nil, DropCounts.get]
      omega
    _ = (DropReason.all.map fun reason => drops.countP (·.reason = reason)).sum := by
      rw [funext counts.drops]
    _ = drops.length := sum_countP_reason drops

/-- All drops but those of withdrawn items come from workers. -/
theorem Counts.drops_from_workers (counts : ledger.Counts results drops assigned) :
    ledger.drops.retriesExhausted + ledger.drops.queueFull + ledger.drops.drained =
      drops.countP (·.reason ≠ .withdrawn) := by
  have total := counts.total_drops
  have withdrawn := counts.drops .withdrawn
  have split := List.length_eq_countP_add_countP (fun drop : DropRecord => drop.reason = .withdrawn)
    (l := drops)
  simp only [DropCounts.total, DropCounts.get, decide_eq_true_eq] at total withdrawn split
  simp only [ne_eq]
  omega

end Ledger

namespace Turn

variable {turn final : Turn}

/-- As many workers come to work as there are assignments. -/
theorem Assigns.activeCount_add (assigns : Assigns turn final)
    (sound : turn.controller.pool.Sound) :
    final.controller.pool.activeCount + turn.log.assignments.length =
      turn.controller.pool.activeCount + final.log.assignments.length := by
  induction assigns with
  | done => rfl
  | @handOver turn selection final selected _ inductionHypothesis =>
      have later := inductionHypothesis (sound_handOver sound selected)
      have taken := activeCount_handOver sound selected
      have listed : (turn.handOver selection).log.assignments.length =
          turn.log.assignments.length + 1 := List.length_append
      omega

end Turn

/-- In a sound pool every worker at work holds one item. -/
theorem WorkerPool.Sound.card_works {pool : WorkerPool} (sound : pool.Sound) :
    pool.works.card = pool.activeCount := by
  rw [works, Multiset.card_map, sound.card_held]

namespace Controller

variable {controller : Controller}

/-- What is assigned in a round, with what was at work before, has left its worker or is at
work afterwards. -/
theorem Sound.activeCount_add_runRound (sound : controller.Sound) (recalls : controller.Recalls)
    (distinct : controller.pool.works.Nodup) :
    controller.runRound.2.log.assignments.length + controller.pool.activeCount =
      controller.runRound.2.log.departed.length + controller.runRound.1.pool.activeCount := by
  have balance := congrArg Multiset.card (sound.works_runRound recalls distinct)
  have assigned := (Turn.assignAll_assigns sound.selecting.sound).activeCount_add
    sound.selecting.sound
  rw [Multiset.card_add, Multiset.coe_card, sound.pool.card_works,
    sound.selecting.sound.card_works] at balance
  rw [assignments_selecting, List.length_nil, ← pool_runRound] at assigned
  have listed : controller.runRound.2.log.assignments =
      controller.selecting.assignAll.log.assignments := by
    rw [runRound_eq, Turn.log_report]
  rw [listed]
  omega

/-- What is drained was at work before, and the rest is at work afterwards. -/
theorem Sound.activeCount_drain (sound : controller.Sound) (recalls : controller.Recalls)
    (distinct : controller.pool.works.Nodup) :
    controller.pool.activeCount =
      controller.drain.2.length + controller.drain.1.pool.activeCount := by
  have balance := congrArg Multiset.card (recalls.departs_drain distinct).balance
  have soundAfter : controller.drain.1.pool.Sound := (sound.perform .drain).sound.pool
  rw [zero_add, Multiset.card_add, Multiset.coe_card, List.length_map, sound.pool.card_works,
    soundAfter.card_works] at balance
  omega

/-- Nothing is withdrawn or drained within a round. -/
theorem Sound.reasons_runRound (sound : controller.Sound) (recalls : controller.Recalls)
    (distinct : controller.pool.works.Nodup) :
    ∀ drop ∈ controller.runRound.2.log.drops,
      drop.reason ≠ .withdrawn ∧ drop.reason ≠ .drained := by
  intro drop member
  rw [sound.log_runRound] at member
  exact (sound.departs_selecting recalls distinct).reasons drop member

/-- Only a withdrawal drops an item as withdrawn. -/
theorem reason_withdraw {work : WorkId} {drop : DropRecord}
    (withdrawn : (controller.withdraw work).2 = .ok drop) : drop.reason = .withdrawn := by
  unfold withdraw at withdrawn
  split at withdrawn
  · cases withdrawn
  · exact congrArg DropRecord.reason (Except.ok.inj withdrawn).symm

/-- Between two rounds items are dropped because somebody asks for it. -/
theorem reason_stepOf (controller : Controller) (operation : Operation)
    (between : operation ≠ .round) :
    ∀ drop ∈ (controller.stepOf operation).drops,
      drop.reason = .withdrawn ∨ drop.reason = .drained := by
  intro drop member
  cases operation with
  | round => exact absurd rfl between
  | withdraw work =>
      cases outcome : (controller.withdraw work).2 with
      | ok withdrawn =>
          simp only [stepOf, perform, Step.drops, outcome, List.mem_singleton] at member
          rw [member]
          exact .inl (reason_withdraw outcome)
      | error refusal => simp [stepOf, perform, Step.drops, outcome] at member
  | drain => exact .inr (drains controller drop member)
  | _ => cases member

/-- What a step assigns, with what was at work before, is finished, queued again or
dropped from its worker, or it is at work afterwards. -/
theorem Sound.activeCount_add_stepOf (sound : controller.Sound) (recalls : controller.Recalls)
    (distinct : controller.pool.works.Nodup) (operation : Operation) :
    (controller.stepOf operation).assignments.length + controller.pool.activeCount =
      (controller.stepOf operation).results.length +
        (controller.stepOf operation).drops.countP (·.reason ≠ .withdrawn) +
        (controller.stepOf operation).requeued.length +
        (controller.perform operation).1.pool.activeCount := by
  have kept (between : operation ≠ .round) (undrained : operation ≠ .drain) :
      (controller.perform operation).1.pool.activeCount = controller.pool.activeCount := by
    rw [← (sound.perform operation).sound.pool.card_works, ← sound.pool.card_works,
      works_perform controller operation between undrained]
  cases operation with
  | round =>
      have balance := sound.activeCount_add_runRound recalls distinct
      have all : controller.runRound.2.log.drops.countP (·.reason ≠ .withdrawn) =
          controller.runRound.2.log.drops.length :=
        List.countP_eq_length.2 fun drop member =>
          decide_eq_true (sound.reasons_runRound recalls distinct drop member).1
      simp only [RoundLog.departed, List.length_append, List.length_map] at balance
      simp only [stepOf, Controller.perform, Step.assignments, Step.results, Step.drops,
        Step.requeued, all]
      omega
  | drain =>
      have balance := sound.activeCount_drain recalls distinct
      have all : controller.drain.2.countP (·.reason ≠ .withdrawn) = controller.drain.2.length :=
        List.countP_eq_length.2 fun drop member => by simp [drains controller drop member]
      simp only [stepOf, Controller.perform, Step.assignments, Step.results, Step.drops,
        Step.requeued, all, List.length_nil]
      omega
  | withdraw work =>
      have same := kept (by simp) (by simp)
      rw [same]
      cases outcome : (controller.withdraw work).2 with
      | ok drop =>
          simp [stepOf, Controller.perform, Step.assignments, Step.results, Step.drops,
            Step.requeued, outcome, reason_withdraw outcome]
      | error refusal =>
          simp [stepOf, Controller.perform, Step.assignments, Step.results, Step.drops,
            Step.requeued, outcome]
  | _ =>
      have same := kept (by simp) (by simp)
      rw [same]
      simp [stepOf, Controller.perform, Step.assignments, Step.results, Step.drops, Step.requeued]

/-- A round books its log. -/
theorem Sound.ledger_runRound (sound : controller.Sound) :
    controller.runRound.1.ledger =
      Turn.account controller.ledger controller.runRound.2.log
        controller.selecting.assignAll.settleQuality.controller :=
  congrArg Books.ledger sound.books_runRound

/-- Between two rounds the ledger counts the drops that are given back. -/
theorem ledger_perform (controller : Controller) (operation : Operation)
    (between : operation ≠ .round) :
    (controller.perform operation).1.ledger =
      controller.ledger.recordDrops (controller.stepOf operation).drops :=
  congrArg Books.ledger (books_perform controller operation between)

/-- Between two rounds there are neither results nor assignments. -/
theorem stepOf_between (controller : Controller) {operation : Operation}
    (between : operation ≠ .round) :
    (controller.stepOf operation).results = [] ∧
      (controller.stepOf operation).assignments = [] := by
  cases operation with
  | round => exact absurd rfl between
  | _ => exact ⟨rfl, rfl⟩

/-- One operation brings the ledger up to date. -/
theorem Sound.counts_stepOf {results : List WorkResult} {drops : List DropRecord} {assigned : Nat}
    (sound : controller.Sound) (counts : controller.ledger.Counts results drops assigned)
    (operation : Operation) :
    (controller.perform operation).1.ledger.Counts
      (results ++ (controller.stepOf operation).results)
      (drops ++ (controller.stepOf operation).drops)
      (assigned + (controller.stepOf operation).assignments.length) := by
  by_cases round : operation = .round
  · subst round
    rw [perform_round, sound.ledger_runRound]
    exact counts.account _ _
  · obtain ⟨unfinished, unassigned⟩ := controller.stepOf_between round
    rw [ledger_perform controller operation round, unfinished, unassigned, List.append_nil]
    exact counts.recordDrops _

end Controller

/-- The ledger balances against the submissions that succeeded, against the reports, and
against what waits and what is at work. -/
structure Controller.Balances (history : History) (controller : Controller) : Prop where
  submitted : history.admitted.length =
    controller.ledger.found + controller.ledger.exhausted + controller.ledger.drops.total +
      controller.queues.totalDepth + controller.pool.activeCount
  assigned : controller.ledger.assigned =
    controller.ledger.found + controller.ledger.exhausted +
      controller.ledger.drops.get .retriesExhausted + controller.ledger.drops.get .queueFull +
      controller.ledger.drops.get .drained + history.requeued.length +
      controller.pool.activeCount
  completed : controller.ledger.completed.total =
    controller.ledger.found + controller.ledger.exhausted
  tiers : ∀ tier, controller.ledger.completed.get tier =
    history.results.countP (·.tier = tier)

namespace Lifetime

variable {config : Configuration} {history : History} {controller : Controller}

/-- The ledger counts what was given back. -/
theorem counts (lifetime : Lifetime config history controller) :
    controller.ledger.Counts history.results history.drops history.assignments.length := by
  induction lifetime with
  | start created =>
      rw [start_eq created]
      refine ⟨rfl, rfl, ?_, ?_, rfl⟩
      · intro tier
        cases tier <;> rfl
      · intro reason
        cases reason <;> rfl
  | step prior operation inductionHypothesis =>
      have next := prior.ledgered.sound.counts_stepOf inductionHypothesis operation
      rw [History.results_concat, History.drops_concat, History.assignments_concat,
        List.length_append]
      exact next

/-- Every assignment ends with a result, a drop or a place in a queue, or the item is
still at work. -/
theorem length_assignments (lifetime : Lifetime config history controller) :
    history.assignments.length =
      history.results.length + history.drops.countP (·.reason ≠ .withdrawn) +
        history.requeued.length + controller.pool.activeCount := by
  induction lifetime with
  | start created =>
      have idle : (Controller.start config).pool.activeCount = 0 := by
        rw [← (ledgered_start config).sound.pool.card_held]
        simp only [Controller.start, WorkerPool.held_fresh, Multiset.card_zero]
      rw [start_eq created, idle]
      rfl
  | @step history before prior operation inductionHypothesis =>
      have balance := prior.ledgered.sound.activeCount_add_stepOf prior.recalls
        prior.nodup_works operation
      simp only [History.results_concat, History.drops_concat, History.requeued_concat,
        History.assignments_concat, List.length_append, List.countP_append]
      omega

/-- Every submission that succeeded waits, is at work, or ended with a result or a
drop. -/
theorem length_admitted (lifetime : Lifetime config history controller) :
    history.admitted.length =
      history.results.length + history.drops.length + controller.queues.totalDepth +
        controller.pool.activeCount := by
  have ledgered := lifetime.ledgered
  obtain ⟨ended, same, closed⟩ := ledgered.accounted
  have records := Multiset.card_eq_card_of_rel closed
  have admitted := congrArg Multiset.card same
  rw [Multiset.coe_card, history.length_records] at records
  rw [Multiset.coe_card, Multiset.card_add, Controller.live, Multiset.card_add,
    AdmissionQueues.card_contents, ledgered.sound.pool.card_held] at admitted
  omega

/-- At every point of every lifetime the ledger balances. -/
theorem balances (lifetime : Lifetime config history controller) :
    controller.Balances history := by
  have counts := lifetime.counts
  have finished := counts.found_add_exhausted
  refine ⟨?_, ?_, ?_, counts.completed⟩
  · rw [lifetime.length_admitted, finished, counts.total_drops]
  · have reasons := counts.drops_from_workers
    rw [counts.assigned, lifetime.length_assignments, finished, ← reasons]
    simp only [DropCounts.get]
    omega
  · rw [counts.total_completed, finished]

/-- Five items: one ends with a hit, one is taken back from an excluded worker and then
drained, one is withdrawn, and two wait. -/
theorem balances_after_drain :
    let start := Controller.start { pool := { workers := 2 } }
    let operations : List Operation :=
      [.submit ⟨[1]⟩ .low, .submit ⟨[2]⟩ .high, .submit ⟨[3]⟩ .low, .submit ⟨[4]⟩ .low,
        .submit ⟨[5]⟩ .medium, .round, .receive (.completion ⟨0, 2, .found [7], .ofFloat 0⟩),
        .receive (.health ⟨1, true, 0⟩), .round, .withdraw 4, .drain]
    let history := start.stepsOf operations
    let controller := start.after operations
    Lifetime { pool := { workers := 2 } } history controller ∧
      history.admitted.length = 5 ∧
      history.requeued = [5] ∧
      controller.ledger.assigned = 3 ∧
      controller.ledger.completed.get .high = 1 ∧
      controller.ledger.drops = ⟨0, 1, 1, 0⟩ ∧
      controller.queues.totalDepth = 2 ∧
      controller.Balances history := by
  intro start operations history controller
  have lifetime : Lifetime { pool := { workers := 2 } } history controller :=
    (Lifetime.start rfl).after operations
  refine ⟨lifetime, ?_, ?_, ?_, ?_, ?_, ?_, lifetime.balances⟩ <;> decide +kernel

end Lifetime

end PoolArbiter
