import PoolArbiter.Proofs.Custody.Ledger
import PoolArbiter.Proofs.Round.Oversight
import PoolArbiter.Proofs.Round.Queues
import PoolArbiter.Proofs.Selection.Maximal

/-!
# Rounds without reports

If nobody has reported, a round settles no verdict, collects no completion and applies no
health report. If besides no worker is past its time, all that comes before the cap leaves the
round as it began. A round that finds nobody at work has nothing to idle either, and it fills as
many openings as there are items, workers and room under the cap.
-/

namespace PoolArbiter

/-- Without completions a poll collects nothing. -/
theorem Collector.poll_nil (collector : Collector) (pool : WorkerPool) (round : Round) :
    collector.poll [] pool round = ⟨collector, pool, {}⟩ := by
  have unordered : inServiceOrder collector.cursor pool.size [] = [] :=
    List.flatMap_eq_nil_iff.2 fun _ _ => rfl
  unfold poll
  rw [unordered]
  split <;> rfl

/-- Turning busy keeps the workers at work. -/
theorem WorkerPool.activeCount_promote (pool : WorkerPool) :
    pool.promote.activeCount = pool.activeCount := by
  unfold activeCount promote
  rw [List.countP_map]
  exact List.countP_congr fun slot _ => by simp [slot.isActive_promote]

/-- A pool without workers at work has nobody to turn busy. -/
theorem WorkerPool.promote_eq_self {pool : WorkerPool} (free : pool.activeCount = 0) :
    pool.promote = pool := by
  have same : pool.slots.map WorkerSlot.promote = pool.slots := by
    refine (List.map_congr_left fun slot member => ?_).trans (List.map_id _)
    have inactive := List.countP_eq_zero.1 free slot member
    refine if_neg fun assigned => inactive ?_
    rw [WorkerSlot.isActive, assigned]
    rfl
  rw [promote, same]

namespace Turn

/-- Without completions nothing is published and nobody's hit is rejected. -/
theorem collect_of_no_completions {snapshot : Snapshot} (none : snapshot.completions = [])
    (turn : Turn) : turn.collect snapshot = turn.countViolations [] := by
  unfold collect
  rw [none, Collector.poll_nil]
  rfl

/-- Where nobody is past its time there are no faults. -/
theorem detectFaults_eq_self {turn : Turn} (punctual : turn.overdue = []) :
    turn.detectFaults = turn := by
  have unfolded : turn.detectFaults = turn.overdue.foldl reclaimFault turn := rfl
  rw [unfolded, punctual, List.foldl_nil]

/-- Where nobody is at work the cap idles nobody. -/
theorem queues_enforceCap_of_free {turn : Turn} (free : turn.controller.pool.activeCount = 0)
    (snapshot : Snapshot) :
    (turn.enforceCap snapshot).controller.queues = turn.controller.queues ∧
      (turn.enforceCap snapshot).controller.pool = turn.controller.pool := by
  have nobody : turn.controller.pool.activeDescending = [] := by
    rw [← List.length_eq_zero_iff, WorkerPool.length_activeDescending, free]
  have spared (governor : Governor) : governor.excess turn.controller.pool = [] := by
    rw [Governor.excess, nobody, List.take_nil]
  unfold enforceCap
  dsimp only
  rw [spared]
  exact ⟨rfl, rfl⟩

end Turn

namespace Controller

variable {controller : Controller}

/-- Without reports the completions of a round change nothing. -/
theorem collected_of_unreported (unreported : controller.feed = []) :
    controller.collected = controller.beginRound := by
  unfold collected
  rw [unreported]
  exact Turn.collect_of_no_completions rfl _

/-- Nobody has reported, and no worker is past its time in the next round. -/
structure Quiet (controller : Controller) : Prop where
  unreported : controller.feed = []
  punctual : controller.beginRound.overdue = []

/-- A quiet round comes to the cap as it began. -/
theorem Quiet.vetted_eq (quiet : controller.Quiet) : controller.vetted = controller.beginRound := by
  have inspected : controller.inspected = controller.beginRound := by
    rw [Controller.inspected, collected_of_unreported quiet.unreported,
      Turn.detectFaults_eq_self quiet.punctual]
  rw [vetted, inspected, quiet.unreported]
  rfl

/-- Nobody has reported, and all workers are trusted and without work. -/
structure Rested (controller : Controller) : Prop where
  unreported : controller.feed = []
  free : controller.pool.activeCount = 0
  trusted : ∀ slot ∈ controller.pool.slots, slot.trusted = true

namespace Rested

/-- At rest there is no work to take up. -/
theorem pool_beginRound (rested : controller.Rested) :
    controller.beginRound.controller.pool = controller.pool :=
  WorkerPool.promote_eq_self rested.free

/-- Who is not at work is not past its time. -/
theorem quiet (rested : controller.Rested) : controller.Quiet where
  unreported := rested.unreported
  punctual := by
    rw [Turn.overdue, rested.pool_beginRound, List.map_eq_nil_iff, List.filter_eq_nil_iff]
    intro slot member
    have inactive := List.countP_eq_zero.1 rested.free slot member
    simp [Turn.isOverdue, inactive]

/-- A round comes to the assignments with the queues and the pool that it found. -/
theorem selecting_eq (rested : controller.Rested) :
    controller.selecting.controller.queues = controller.queues ∧
      controller.selecting.controller.pool = controller.pool := by
  have free : controller.beginRound.controller.pool.activeCount = 0 :=
    rested.pool_beginRound ▸ rested.free
  have capped := Turn.queues_enforceCap_of_free free (Snapshot.ofReports controller.feed)
  rw [selecting, Turn.queues_adapt, Turn.pool_adapt, rested.quiet.vetted_eq, capped.1, capped.2,
    rested.pool_beginRound]
  exact ⟨rfl, rfl⟩

/-- Every worker may be handed an item. -/
theorem length_eligibleSlots (rested : controller.Rested) (sound : controller.pool.Sound) :
    controller.pool.eligibleSlots.length = controller.pool.size := by
  have all : controller.pool.eligibleSlots = controller.pool.slots := by
    refine List.filter_eq_self.2 fun slot member => ?_
    have inactive := List.countP_eq_zero.1 rested.free slot member
    exact (sound.slot member).isEligible_of_inactive (rested.trusted slot member)
      (Bool.eq_false_iff.2 inactive)
  rw [all]
  rfl

/-- The governor sees nobody at work and no sensor. -/
theorem governor_runRound (rested : controller.Rested) (sound : controller.Sound) :
    controller.runRound.1.governor = controller.governor.recompute 0 none := by
  rw [sound.governor_runRound, rested.quiet.vetted_eq, rested.pool_beginRound, rested.free,
    rested.unreported]
  rfl

/-- As many items are assigned as wait, as there are workers, and as the cap has room for. -/
theorem length_assignments (rested : controller.Rested) (sound : controller.Sound) :
    controller.runRound.2.log.assignments.length =
      min controller.queues.totalDepth
        (min controller.pool.size controller.runRound.1.governor.state.activeCap) := by
  obtain ⟨queues, pool⟩ := rested.selecting_eq
  have eligible := rested.length_eligibleSlots sound.pool
  have cap : controller.selecting.controller.governor = controller.runRound.1.governor := by
    rw [governor_selecting, sound.governor_capped]
  rw [← List.length_map (·.worker), sound.workers_runRound, List.length_take,
    Turn.length_lineup, Turn.openings, queues, pool, cap, rested.free, eligible]
  omega

/-- The workers at work after the round are those that were handed an item. -/
theorem activeCount_runRound (rested : controller.Rested) (sound : controller.Sound) :
    controller.runRound.1.pool.activeCount = controller.runRound.2.log.assignments.length := by
  have assigned := (Turn.assignAll_assigns sound.selecting.sound).activeCount_add
    sound.selecting.sound
  rw [rested.selecting_eq.2, rested.free, assignments_selecting, List.length_nil,
    ← pool_runRound, Nat.zero_add, Nat.add_zero] at assigned
  rw [assigned, runRound_eq, Turn.log_report]

/-- Who is at work after the round has taken one of the items that waited. -/
theorem slot?_runRound (rested : controller.Rested) (sound : controller.Sound)
    {worker : WorkerId} {later : WorkerSlot}
    (found : controller.runRound.1.pool.slot? worker = some later)
    (active : later.isActive = true) :
    ∃ earlier item, controller.pool.slot? worker = some earlier ∧
      item ∈ controller.queues.contents ∧
      later = earlier.take item (controller.pool.rangeFor worker) (controller.round + 1) := by
  obtain ⟨queues, pool⟩ := rested.selecting_eq
  rw [pool_runRound] at found
  rcases (Turn.assignAll_assigns sound.selecting.sound).slot_cases sound.selecting.sound found
    with same | ⟨earlier, item, present, _, queued, taken⟩
  · rw [pool] at same
    exact absurd active (List.countP_eq_zero.1 rested.free later (WorkerPool.mem_of_slot? same))
  · rw [pool] at present taken
    rw [queues] at queued
    rw [round_selecting] at taken
    exact ⟨earlier, item, present, queued, taken⟩

end Rested

end Controller

end PoolArbiter
