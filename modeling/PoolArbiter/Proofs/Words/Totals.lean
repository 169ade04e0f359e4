import PoolArbiter.Proofs.Round.Results
import PoolArbiter.Proofs.Words.Range

/-!
# Sums over workers and rounds

Four sums of the ledger count workers: those that were given an item, that ran past their
time, that were idled above the cap and that lost their item with their trust. A round adds at
most one for each worker to each of them, so after some rounds they are bounded by the product
of rounds and workers.
-/

namespace PoolArbiter

/-- What a log counts of some workers. -/
structure RoundLog.CountsWorkers (workers : Nat) (log : RoundLog) : Prop where
  assigned : log.assignments.length ≤ workers
  faulted : log.faulted.length ≤ workers
  forcedIdle : log.forcedIdle.length ≤ workers
  securityReclaims : log.securityReclaims ≤ workers

namespace Turn

variable (turn : Turn)

/-- A round adds no more to any total than there are workers. -/
theorem totalsWithin_account {ledger : Ledger} {bound workers : Nat} {log : RoundLog}
    (within : ledger.TotalsWithin bound) (counts : log.CountsWorkers workers)
    (controller : Controller) :
    (account ledger log controller).TotalsWithin (bound + workers) where
  assigned := Nat.add_le_add within.assigned counts.assigned
  workerFaults := Nat.add_le_add within.workerFaults counts.faulted
  thermalPreemptions := Nat.add_le_add within.thermalPreemptions counts.forcedIdle
  securityReclaims := Nat.add_le_add within.securityReclaims counts.securityReclaims

/-- Queueing an item again counts no security reclaim. -/
@[simp]
theorem securityReclaims_requeueOrDrop (item : WorkItem) :
    (turn.requeueOrDrop item).log.securityReclaims = turn.log.securityReclaims := by
  unfold requeueOrDrop
  dsimp only
  split <;> rfl

/-- Idling a worker over the cap counts no security reclaim. -/
theorem securityReclaims_preempt (worker : WorkerId) :
    (turn.preempt worker).log.securityReclaims = turn.log.securityReclaims := by
  unfold preempt
  dsimp only
  split
  · rfl
  · split
    · rfl
    · exact securityReclaims_requeueOrDrop _ _

/-- The exclusions count the items that they take back. -/
theorem securityReclaims_applyHealth (snapshot : Snapshot) :
    (turn.applyHealth snapshot).log.securityReclaims =
      (turn.controller.gate.applyReports turn.controller.pool
        snapshot.health).change.reclaimed.length :=
  view_foldl (·.log.securityReclaims) securityReclaims_requeueOrDrop _ _

/-- Enforcing the cap counts no security reclaim. -/
theorem securityReclaims_enforceCap (snapshot : Snapshot) :
    (turn.enforceCap snapshot).log.securityReclaims = turn.log.securityReclaims :=
  view_foldl (·.log.securityReclaims) securityReclaims_preempt _ _

/-- The adaptation counts no security reclaim. -/
theorem securityReclaims_adapt : turn.adapt.log.securityReclaims = turn.log.securityReclaims := by
  unfold adapt
  dsimp only
  split <;> rfl

end Turn

/-- The items that are taken back were at work before. -/
theorem WorkerPool.Sound.length_reclaimed_le {pool : WorkerPool} (sound : pool.Sound)
    (gate : TrustGate) (reports : List HealthReport) :
    (gate.applyReports pool reports).change.reclaimed.length ≤ pool.size := by
  obtain ⟨queues, isEmpty⟩ : ∃ queues, queues = AdmissionQueues.fresh {} 1 0 := ⟨_, rfl⟩
  have contents : queues.contents = 0 := isEmpty ▸ AdmissionQueues.contents_fresh _ _ _
  have custody : Custody pool.held 0 queues pool [] := by
    refine ⟨sound, isEmpty ▸ AdmissionQueues.sorted_fresh _ _ _, ?_⟩
    rw [contents, zero_add, zero_add]
    exact Accounted.refl _
  have held := (Turn.custody_applyReports custody gate reports).accounted.card_le
  rw [Multiset.card_add, Multiset.coe_card, sound.card_held] at held
  exact (Nat.le_add_right _ _).trans (held.trans List.countP_le_length)

namespace Controller

variable {controller : Controller}

/-- After the exclusions a round counts no security reclaim. -/
theorem Sound.securityReclaims_runRound (sound : controller.Sound) :
    controller.runRound.2.log.securityReclaims = controller.vetted.log.securityReclaims := by
  have same := congrArg RoundLog.securityReclaims
    (Turn.assignAll_assigns sound.selecting.sound).log_eq
  rw [runRound_eq, Turn.log_report, same, selecting_eq, Turn.securityReclaims_adapt, capped,
    Turn.securityReclaims_enforceCap]

/-- A round counts each worker at most once. -/
theorem Sound.countsWorkers (sound : controller.Sound) :
    controller.runRound.2.log.CountsWorkers controller.pool.size := by
  have begun := WorkerPool.layout_promote controller.pool
  have collected := WorkerPool.size_eq_of_layout
    ((frees_collected controller).layout.trans begun)
  have inspected :=
    (WorkerPool.size_eq_of_layout (frees_inspected controller).layout).trans collected
  have vetted := (WorkerPool.size_eq_of_layout (frees_vetted controller).layout).trans inspected
  have selecting := WorkerPool.size_eq_of_layout controller.layout_selecting
  constructor
  · have workers := congrArg List.length sound.workers_runRound
    rw [List.length_map] at workers
    rw [workers, ← selecting]
    refine (List.length_take_le' _ _).trans ?_
    rw [Turn.length_lineup]
    exact List.length_filter_le _ _
  · rw [sound.faulted_runRound, Turn.overdue, List.length_map, ← collected]
    exact List.length_filter_le _ _
  · rw [sound.forcedIdle_eq_excess, Governor.excess, ← vetted]
    refine (List.length_take_le' _ _).trans ?_
    rw [WorkerPool.length_activeDescending]
    exact List.countP_le_length
  · rw [sound.securityReclaims_runRound, Controller.vetted, Turn.securityReclaims_applyHealth,
      ← inspected]
    exact sound.inspected.sound.length_reclaimed_le _ _

end Controller

/-- The sums that count workers are bounded by the product of rounds and workers. -/
theorem Lifetime.totalsWithin {config : Configuration} {history : History}
    {controller : Controller} (lifetime : Lifetime config history controller) :
    controller.ledger.TotalsWithin (controller.round * config.pool.workers) := by
  refine lifetime.invariant (motive := fun _ controller =>
    controller.ledger.TotalsWithin (controller.round * config.pool.workers)) ?_ ?_ ?_
  · exact ⟨Nat.zero_le _, Nat.zero_le _, Nat.zero_le _, Nat.zero_le _⟩
  · intro history before prior within
    have sound := prior.ledgered.sound
    have size := congrArg WorkerPool.Layout.workers prior.layout
    dsimp only [WorkerPool.layout] at size
    rw [sound.ledger_runRound, sound.round_runRound, Nat.succ_mul]
    exact Turn.totalsWithin_account within (size ▸ sound.countsWorkers) _
  · intro history before operation between prior within
    rw [before.ledger_perform operation between, before.round_perform operation between,
      Ledger.recordDrops_eq]
    exact ⟨within.assigned, within.workerFaults, within.thermalPreemptions,
      within.securityReclaims⟩

namespace Lifetime

variable {config : Configuration} {history : History} {controller : Controller} {bound : Nat}

/-- The sums never fall. -/
theorem totalsWithin_of_perform (lifetime : Lifetime config history controller)
    {operation : Operation}
    (within : (controller.perform operation).1.ledger.TotalsWithin bound) :
    controller.ledger.TotalsWithin bound := by
  by_cases round : operation = .round
  · subst round
    rw [Controller.perform_round, lifetime.ledgered.sound.ledger_runRound] at within
    exact ⟨Nat.le_of_add_right_le within.assigned, Nat.le_of_add_right_le within.workerFaults,
      Nat.le_of_add_right_le within.thermalPreemptions,
      Nat.le_of_add_right_le within.securityReclaims⟩
  · rw [controller.ledger_perform operation round, Ledger.recordDrops_eq] at within
    exact ⟨within.assigned, within.workerFaults, within.thermalPreemptions,
      within.securityReclaims⟩

/-- The totals never shrink, so they were within their bound before. -/
theorem totalsWithin_of_after (lifetime : Lifetime config history controller)
    {operations : List Operation}
    (within : (controller.after operations).ledger.TotalsWithin bound) :
    controller.ledger.TotalsWithin bound := by
  induction operations generalizing history controller with
  | nil => exact within
  | cons operation rest inductionHypothesis =>
      exact lifetime.totalsWithin_of_perform (inductionHypothesis (lifetime.step operation) within)

end Lifetime

end PoolArbiter
