import PoolArbiter.Proofs.Faults.Excess
import PoolArbiter.Proofs.Thermal.Ceiling
import PoolArbiter.Proofs.Trust.Exclusion
import PoolArbiter.Proofs.Words.Run

/-!
# Sums beyond a word

Four workers whose power is cut in every other round are handed the same four items again and
again: two assignments for each round, though nothing is ever finished. After two to the power
of 63 rounds the sum of the assignments is no word any more (`not_totalsWithin_overflowing`), so
the bound on the rounds alone does not keep the ledger in words.
-/

namespace PoolArbiter

/-- Four workers with all the time they want, whose items go back to their tier when the power
falls. -/
def Configuration.shuttling : Configuration where
  pool := { workers := 4, faultMinRounds := Binary64.greatestWord }
  thermal := { reclaim := .requeue }

/-- A round with power for all four workers, and one with power for none. -/
def Configuration.powerCycle : List Operation :=
  [.setBudget 240, .round, .setBudget 0, .round]

namespace Governor

variable {governor : Governor} {active : Nat}

/-- A governor of the four workers that has never throttled them. -/
structure Calm (governor : Governor) : Prop where
  settings : governor.settings = Configuration.shuttling.thermal
  poolSize : governor.poolSize = 4
  ceiling : governor.ceiling = none
  throttled : governor.state.throttled = false

/-- As long as no heat is expected the cap is what the budget can feed. -/
theorem Calm.recompute (calm : governor.Calm)
    (mild : ¬ Configuration.shuttling.thermal.safetyThresholdC <
      (model Configuration.shuttling.thermal active).temperature) :
    (governor.recompute active none).Calm ∧
      (governor.recompute active none).state.activeCap =
        feedable Configuration.shuttling.thermal 4 governor.budget := by
  have untouched : governor.throttle active
      (model governor.settings active).temperature = (none, false) := by
    unfold throttle
    dsimp only
    rw [calm.settings, if_neg mild, calm.ceiling, calm.throttled]
    rfl
  have recomputed : governor.recompute active none =
      { governor with
        ceiling := none
        state :=
          { activeCap := governor.powerCap
            power := (model governor.settings active).power
            temperature := (model governor.settings active).temperature
            throttled := false } } := by
    unfold Governor.recompute
    dsimp only [Option.getD_none]
    rw [untouched]
    rfl
  rw [recomputed]
  refine ⟨⟨calm.settings, calm.poolSize, rfl, rfl⟩, ?_⟩
  rw [powerCap, calm.settings, calm.poolSize]

end Governor

namespace Turn

/-- Before the shortest timeout is over nobody is past it. -/
theorem overdue_eq_nil {turn : Turn}
    (early : turn.controller.round ≤ turn.controller.config.pool.faultMinRounds) :
    turn.overdue = [] := by
  rw [overdue, List.map_eq_nil_iff, List.filter_eq_nil_iff]
  intro slot _
  have elapsed : slot.elapsed turn.controller.round ≤ turn.controller.round := by
    unfold WorkerSlot.elapsed
    split
    · exact Nat.zero_le _
    · exact Nat.sub_le _ _
  have least : turn.controller.config.pool.faultMinRounds ≤
      timeout turn.controller.config.pool slot := Nat.le_max_right _ _
  simp [isOverdue, Nat.not_lt_of_le (elapsed.trans (early.trans least))]

/-- Workers that are idled to save power end no item if the items are queued again. -/
theorem results_enforceCap_of_requeue {turn : Turn}
    (requeue : turn.controller.config.thermal.reclaim = .requeue) (snapshot : Snapshot) :
    (turn.enforceCap snapshot).log.results = turn.log.results := by
  let governor :=
    turn.controller.governor.recompute turn.controller.pool.activeCount snapshot.sensor
  have spared : ∀ shed : Turn, shed.controller.config = turn.controller.config ∧
      shed.log.results = turn.log.results → ∀ worker ∈ governor.excess turn.controller.pool,
        (shed.preempt worker).controller.config = turn.controller.config ∧
          (shed.preempt worker).log.results = turn.log.results := by
    rintro shed ⟨config, results⟩ worker _
    have same := congrArg (·.controller.config) (frame_preempt shed worker)
    refine ⟨same.trans config, ?_⟩
    unfold preempt
    dsimp only
    split
    · exact results
    next item _ =>
      rw [config, requeue]
      exact (congrArg RoundLog.Findings.results (findings_requeueOrDrop _ item)).trans results
  have all := List.foldlRecOn (motive := fun shed : Turn =>
      shed.controller.config = turn.controller.config ∧ shed.log.results = turn.log.results)
    (governor.excess turn.controller.pool) preempt
    (b := { turn with controller := { turn.controller with governor := governor } }) ⟨rfl, rfl⟩
    spared
  exact all.2

end Turn

namespace Lifetime

variable {config : Configuration} {history : History} {controller : Controller}

/-- A quiet round ends no item, if items are queued again and find room. -/
theorem unended_of_quiet (lifetime : Lifetime config history controller)
    (quiet : controller.Quiet) (requeue : config.thermal.reclaim = .requeue)
    (limited : config.queues.Limited)
    (ample : config.pool.workers ≤ config.queues.reclaimHeadroom) :
    controller.runRound.2.log.results = [] ∧ controller.runRound.2.log.drops = [] := by
  have sound := lifetime.ledgered.sound
  constructor
  · have found := congrArg RoundLog.Findings.results sound.findings_runRound
    have began : controller.beginRound.controller.config.thermal.reclaim = .requeue := by
      rw [← requeue, ← lifetime.config_eq]
      rfl
    refine found.trans ?_
    rw [RoundLog.findings, Controller.capped, quiet.vetted_eq,
      Turn.results_enforceCap_of_requeue began]
    rfl
  · refine List.eq_nil_iff_forall_not_mem.2 fun drop member => ?_
    have room := sound.lossless_runRound lifetime.hasRoom limited ample drop member
    obtain ⟨withdrawn, drained⟩ :=
      sound.reasons_runRound lifetime.recalls lifetime.nodup_works drop member
    have exhausted := lifetime.countsFaults.exhausted sound lifetime.ledgered.distinct_live member
    rw [quiet.faultedWorks_eq_nil sound] at exhausted
    cases reason : drop.reason with
    | retriesExhausted => exact List.not_mem_nil (exhausted reason).2
    | queueFull => exact room reason
    | withdrawn => exact withdrawn reason
    | drained => exact drained reason

end Lifetime

open PoolArbiter.Configuration

namespace Controller

/-- The four items are still under way, and nothing has been reported or excluded. -/
structure Shuttles (history : History) (controller : Controller) : Prop where
  lifetime : Lifetime shuttling history controller
  unreported : controller.feed = []
  trusted : ∀ slot ∈ controller.pool.slots, slot.trusted = true
  calm : controller.governor.Calm
  results : history.results = []
  drops : history.drops = []
  admitted : history.admitted.length = 4

namespace Shuttles

variable {history : History} {controller : Controller}

/-- The limits of the shuttling configuration are words. -/
theorem limited_shuttling : shuttling.queues.Limited := by
  intro tier
  cases tier <;> decide +kernel

/-- A new budget leaves the items where they are. -/
theorem setBudget (shuttles : controller.Shuttles history) (watts : Float) :
    (controller.withBudget watts).Shuttles (history ++ [controller.stepOf (.setBudget watts)]) where
  lifetime := shuttles.lifetime.step (.setBudget watts)
  unreported := shuttles.unreported
  trusted := shuttles.trusted
  calm := ⟨shuttles.calm.settings, shuttles.calm.poolSize, shuttles.calm.ceiling,
    shuttles.calm.throttled⟩
  results := by rw [History.results_concat, shuttles.results]; rfl
  drops := by rw [History.drops_concat, shuttles.drops]; rfl
  admitted := by rw [History.admitted_append, List.length_append, shuttles.admitted]; rfl

/-- Nothing but the assignments and the cap happens in a round of the shuttle. -/
theorem quiet (shuttles : controller.Shuttles history)
    (early : controller.round + 1 ≤ Binary64.greatestWord) : controller.Quiet where
  unreported := shuttles.unreported
  punctual := by
    refine Turn.overdue_eq_nil ?_
    have patient : controller.config.pool.faultMinRounds = Binary64.greatestWord := by
      rw [shuttles.lifetime.config_eq]
      rfl
    exact early.trans_eq patient.symm

/-- A round ends none of the items, and its cap is what the budget can feed. -/
theorem round (shuttles : controller.Shuttles history)
    (early : controller.round + 1 ≤ Binary64.greatestWord)
    (mild : ¬ shuttling.thermal.safetyThresholdC <
      (Governor.model shuttling.thermal controller.pool.activeCount).temperature) :
    controller.runRound.1.Shuttles (history ++ [controller.stepOf .round]) ∧
      controller.runRound.1.governor.state.activeCap =
        Governor.feedable shuttling.thermal 4 controller.governor.budget := by
  have sound := shuttles.lifetime.ledgered.sound
  have quiet := shuttles.quiet early
  have governor : controller.runRound.1.governor =
      controller.governor.recompute controller.pool.activeCount none := by
    have active : controller.beginRound.controller.pool.activeCount =
        controller.pool.activeCount := WorkerPool.activeCount_promote _
    rw [sound.governor_runRound, quiet.vetted_eq, active, shuttles.unreported]
    rfl
  obtain ⟨calm, cap⟩ := shuttles.calm.recompute mild
  rw [← governor] at calm cap
  obtain ⟨results, drops⟩ := shuttles.lifetime.unended_of_quiet quiet rfl limited_shuttling
    (by decide)
  have unfinished : (controller.stepOf .round).results = [] := results
  have undropped : (controller.stepOf .round).drops = [] := drops
  have unadmitted : History.admitted [controller.stepOf .round] = [] := rfl
  refine ⟨⟨shuttles.lifetime.step .round, sound.feed_runRound, ?_, calm, ?_, ?_, ?_⟩, cap⟩
  · have same : controller.runRound.1.pool.trust = controller.pool.trust := by
      rw [sound.trust_runRound, quiet.vetted_eq]
      exact WorkerPool.trust_promote _
    intro slot member
    have listed : slot.trusted ∈ controller.runRound.1.pool.trust := List.mem_map_of_mem member
    rw [same] at listed
    obtain ⟨earlier, present, equal⟩ := List.mem_map.1 listed
    exact equal ▸ shuttles.trusted earlier present
  · rw [History.results_concat, shuttles.results, unfinished, List.append_nil]
  · rw [History.drops_concat, shuttles.drops, undropped, List.append_nil]
  · rw [History.admitted_append, List.length_append, shuttles.admitted, unadmitted,
      List.length_nil]

/-- With nobody at work the four items wait, and with power for all workers they are all handed
over. -/
theorem handsOver (shuttles : controller.Shuttles history)
    (free : controller.pool.activeCount = 0)
    (early : controller.round + 1 ≤ Binary64.greatestWord)
    (powered : Governor.feedable shuttling.thermal 4 controller.governor.budget = 4) :
    controller.runRound.1.Shuttles (history ++ [controller.stepOf .round]) ∧
      controller.runRound.1.pool.activeCount = 4 ∧
      (controller.stepOf .round).assignments.length = 4 := by
  have sound := shuttles.lifetime.ledgered.sound
  have rested : controller.Rested := ⟨shuttles.unreported, free, shuttles.trusted⟩
  have mild : ¬ shuttling.thermal.safetyThresholdC <
      (Governor.model shuttling.thermal controller.pool.activeCount).temperature := by
    rw [free]
    decide +kernel
  obtain ⟨next, cap⟩ := shuttles.round early mild
  have waiting := shuttles.lifetime.length_admitted
  rw [shuttles.admitted, shuttles.results, shuttles.drops, free] at waiting
  have size : controller.pool.size = 4 :=
    congrArg WorkerPool.Layout.workers shuttles.lifetime.layout
  have assigned : controller.runRound.2.log.assignments.length = 4 := by
    rw [rested.length_assignments sound, size, cap, powered]
    simp only [List.length_nil] at waiting
    omega
  exact ⟨next, (rested.activeCount_runRound sound).trans assigned, assigned⟩

/-- Without power all four workers are idled. -/
theorem idles (shuttles : controller.Shuttles history)
    (busy : controller.pool.activeCount = 4)
    (early : controller.round + 1 ≤ Binary64.greatestWord)
    (unpowered : Governor.feedable shuttling.thermal 4 controller.governor.budget = 0) :
    controller.runRound.1.Shuttles (history ++ [controller.stepOf .round]) ∧
      controller.runRound.1.pool.activeCount = 0 := by
  have mild : ¬ shuttling.thermal.safetyThresholdC <
      (Governor.model shuttling.thermal controller.pool.activeCount).temperature := by
    rw [busy]
    decide +kernel
  obtain ⟨next, cap⟩ := shuttles.round early mild
  have within := next.lifetime.withinCap.active
  rw [cap, unpowered] at within
  exact ⟨next, Nat.le_zero.1 within⟩

/-- The full budget feeds all workers. -/
theorem feedable_full (controller : Controller) :
    Governor.feedable shuttling.thermal 4 (controller.withBudget 240).governor.budget = 4 := by
  have budget : (controller.withBudget 240).governor.budget = Binary64.atLeastZero 240 := rfl
  rw [budget]
  decide +kernel

/-- Without a budget no worker is fed. -/
theorem feedable_none (controller : Controller) :
    Governor.feedable shuttling.thermal 4 (controller.withBudget 0).governor.budget = 0 := by
  have budget : (controller.withBudget 0).governor.budget = Binary64.atLeastZero 0 := rfl
  rw [budget]
  decide +kernel

/-- A power cycle is a round with the full budget and one without. -/
theorem after_powerCycle_eq (controller : Controller) :
    controller.after powerCycle =
      ((controller.withBudget 240).runRound.1.withBudget 0).runRound.1 := by
  simp only [powerCycle, after_cons, perform]
  rfl

/-- Two rounds hand over the four items and take them back. -/
theorem after_powerCycle (shuttles : controller.Shuttles history)
    (free : controller.pool.activeCount = 0)
    (early : controller.round + 2 ≤ Binary64.greatestWord) :
    ∃ later, (controller.after powerCycle).Shuttles later ∧
      (controller.after powerCycle).pool.activeCount = 0 ∧
      (controller.after powerCycle).round = controller.round + 2 ∧
      history.assignments.length + 4 ≤ later.assignments.length := by
  have fed := shuttles.setBudget 240
  have soon : (controller.withBudget 240).round + 1 ≤ Binary64.greatestWord :=
    Nat.le_of_succ_le early
  obtain ⟨handed, busy, assigned⟩ := fed.handsOver free soon (feedable_full controller)
  have first : (controller.withBudget 240).runRound.1.round = controller.round + 1 :=
    fed.lifetime.ledgered.sound.round_runRound
  rw [after_powerCycle_eq]
  -- The second round needs no more of the first one than what it is known to leave.
  generalize (controller.withBudget 240).runRound.1 = middle at handed busy first ⊢
  have cut := handed.setBudget 0
  have again : (middle.withBudget 0).round + 1 ≤ Binary64.greatestWord := by
    have same : (middle.withBudget 0).round = controller.round + 1 := first
    rw [same]
    exact early
  obtain ⟨taken, free⟩ := cut.idles busy again (feedable_none middle)
  have second : (middle.withBudget 0).runRound.1.round = middle.round + 1 :=
    cut.lifetime.ledgered.sound.round_runRound
  refine ⟨_, taken, free, second.trans (congrArg (· + 1) first), ?_⟩
  simp only [History.assignments_concat, List.length_append, assigned]
  omega

/-- The four items are handed over twice as often as rounds pass. -/
theorem after_powerCycles (shuttles : controller.Shuttles history)
    (free : controller.pool.activeCount = 0) {rounds : Nat} (begun : controller.round = rounds)
    (times : Nat) (early : rounds + 2 * times ≤ Binary64.greatestWord) :
    ∃ later, (controller.after (List.replicate times powerCycle).flatten).Shuttles later ∧
      history.assignments.length + 4 * times ≤ later.assignments.length := by
  induction times generalizing history controller rounds with
  | zero => exact ⟨history, shuttles, Nat.le_refl _⟩
  | succ times inductionHypothesis =>
      have soon : rounds + 2 ≤ Binary64.greatestWord := by omega
      obtain ⟨next, shuttlesOn, idle, round, assigned⟩ :=
        shuttles.after_powerCycle free (begun ▸ soon)
      rw [begun] at round
      obtain ⟨later, last, more⟩ := inductionHypothesis shuttlesOn idle round (by omega)
      rw [List.replicate_succ, List.flatten_cons, after_append]
      exact ⟨later, last, by omega⟩

end Shuttles

end Controller

namespace Configuration

/-- The check accepts the shuttling configuration. -/
theorem isAccepted_shuttling : shuttling.IsAccepted := by
  unfold IsAccepted
  decide +kernel

/-- The numbers of the shuttling configuration are words. -/
theorem inWords_shuttling : shuttling.InWords := by
  constructor
  case limits => intro tier; cases tier <;> decide +kernel
  all_goals decide +kernel

/-- Before the first round the four items wait. -/
theorem shuttles_start :
    ((Controller.start shuttling).after (supply .low 4)).Shuttles
      ((Controller.start shuttling).stepsOf (supply .low 4)) where
  lifetime := isAccepted_shuttling.lifetime.after (supply .low 4)
  unreported := by decide +kernel
  trusted := by decide +kernel
  calm := ⟨rfl, rfl, rfl, rfl⟩
  results := by decide +kernel
  drops := by decide +kernel
  admitted := by decide +kernel

/-- Four items, and two rounds with and without power as often as half the words. -/
def overflowing : List Operation :=
  supply .low 4 ++ (List.replicate 0x4000000000000000 powerCycle).flatten

/-- The operations are fewer than the words. -/
theorem brief_overflowing : Brief overflowing where
  rounds := by
    rw [overflowing, List.countP_append, List.countP_flatten, List.map_replicate,
      List.sum_replicate_nat]
    decide +kernel
  submits := by
    rw [overflowing, List.countP_append, List.countP_flatten, List.map_replicate,
      List.sum_replicate_nat]
    decide +kernel

/-- The sum of the assignments leaves the words. -/
theorem not_totalsWithin_overflowing :
    ¬ ((Controller.start shuttling).after overflowing).ledger.TotalsWithin
      Binary64.greatestWord := by
  intro within
  have free : ((Controller.start shuttling).after (supply .low 4)).pool.activeCount = 0 := by
    decide +kernel
  have begun : ((Controller.start shuttling).after (supply .low 4)).round = 0 := by
    decide +kernel
  obtain ⟨later, shuttles, many⟩ := shuttles_start.after_powerCycles free begun 0x4000000000000000
    (by decide +kernel)
  rw [← Controller.after_append, ← overflowing] at shuttles
  have assigned := within.assigned
  rw [shuttles.lifetime.counts.assigned] at assigned
  have few : (4 * 0x4000000000000000 : Nat) ≤ Binary64.greatestWord :=
    (Nat.le_of_add_left_le many).trans assigned
  exact absurd few (by decide +kernel)

/-- With four workers fewer than two to the power of 64 rounds overflow the ledger. -/
theorem not_staysInWords :
    shuttling.IsAccepted ∧ shuttling.InWords ∧ Brief overflowing ∧
      shuttling.runInWords? overflowing = none := by
  refine ⟨isAccepted_shuttling, inWords_shuttling, brief_overflowing, ?_⟩
  refine Option.eq_none_iff_forall_ne_some.2 fun last ran => not_totalsWithin_overflowing ?_
  exact ((runInWords?_eq_some_iff isAccepted_shuttling inWords_shuttling brief_overflowing).1
    ran).2

end Configuration

end PoolArbiter
