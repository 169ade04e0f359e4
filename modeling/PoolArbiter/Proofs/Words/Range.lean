import PoolArbiter.Proofs.Custody.Headroom
import PoolArbiter.Proofs.Words.Round

/-!
# Counters stay in range

The counters of a controller grow with the rounds and the items of its history, or they stand
at a worker or inside a window. `Controller.Measured` collects those that a round moves, and
`Lifetime.inRange` draws them together: in a history with few enough rounds and items every
counter is in range, whatever the reports said.
-/

namespace PoolArbiter

namespace Collector

/-- Completions that count come from workers of the pool. -/
theorem cursor_poll {collector : Collector} {pool : WorkerPool}
    (inside : ∀ last ∈ collector.cursor, last < pool.size) (completions : List Completion)
    (round : Round) :
    ∀ last ∈ (collector.poll completions pool round).collector.cursor, last < pool.size := by
  unfold poll
  split
  · exact inside
  · refine (List.foldlRecOn (motive := fun progress : Progress =>
      progress.pool.size = pool.size ∧ ∀ last ∈ progress.collector.cursor, last < pool.size)
      _ _ ⟨rfl, inside⟩ ?_).2
    rintro progress ⟨size, inside⟩ completion _
    refine ⟨?_, ?_⟩
    · have frees := WorkerPool.frees_accept progress round completion
      rw [WorkerPool.size_eq_of_layout frees.layout, size]
    · unfold Progress.accept
      split
      next => exact inside
      next slot item counts =>
        rintro last ⟨⟩
        obtain ⟨found, _, _⟩ := Turn.heldItem?_eq_some counts
        exact size ▸ (List.getElem?_eq_some_iff.1 found).1

end Collector

namespace Ledger

/-- Drops change no other count of a ledger. -/
theorem recordDrops_eq (ledger : Ledger) (drops : List DropRecord) :
    ledger.recordDrops drops = { ledger with drops := (ledger.recordDrops drops).drops } := by
  refine List.foldlRecOn (motive := fun counted : Ledger =>
    counted = { ledger with drops := counted.drops }) _ _ rfl ?_
  intro counted same drop _
  rw [same]
  rfl

end Ledger

namespace Adaptation

variable {adaptation : Adaptation}

/-- Samples are taken once in a round. -/
theorem samples_onRound (same : adaptation.sampleCount = adaptation.roundsInWindow)
    (utilization : Float) (current : Policy) (modes : Modes) :
    (adaptation.onRound utilization current modes).1.sampleCount =
      (adaptation.onRound utilization current modes).1.roundsInWindow := by
  by_cases isOpen : adaptation.roundsInWindow + 1 < adaptation.window
  · rw [onRound_of_open isOpen]
    exact congrArg (· + 1) same
  · rw [onRound_of_closed isOpen]
    rfl

end Adaptation

namespace Turn

/-- The ledger counts the round. -/
theorem rounds_account (ledger : Ledger) (log : RoundLog) (controller : Controller) :
    (account ledger log controller).rounds = ledger.rounds + 1 :=
  rfl

/-- The ledger counts a switch of the policy. -/
theorem policySwitches_account (ledger : Ledger) (log : RoundLog) (controller : Controller) :
    (account ledger log controller).policySwitches =
      ledger.policySwitches + if log.policySwitch.isSome then 1 else 0 :=
  rfl

/-- The end of a round observes backlog and load. -/
theorem quality_report (turn : Turn) :
    turn.settleQuality.report.1.quality =
      turn.controller.quality.observe turn.controller.queues.totalDepth
        turn.controller.pool.activeCount turn.controller.pool.size
        turn.controller.modes.emergency :=
  rfl

end Turn

namespace Controller

/-- The counters that only a round moves, where the windows have a length. -/
structure Measured (window : Nat) (controller : Controller) : Prop where
  windowed : controller.Windowed window
  cursor : ∀ last ∈ controller.collector.cursor, last < controller.pool.size
  within : controller.policy.Within controller.pool.size
  samples : controller.adaptation.sampleCount = controller.adaptation.roundsInWindow
  quality : controller.quality.Bounded controller.round
  rounds : controller.ledger.rounds = controller.round
  switches : controller.ledger.policySwitches ≤ controller.round

variable {config : Configuration} {controller : Controller} {window : Nat}

/-- A fresh controller has counted nothing. -/
theorem measured_start (short : config.quality.slaWindowRounds ≤ Word.greatestOf32) :
    (start config).Measured (max 1 config.adaptation.windowRounds) where
  windowed := windowed_start config
  cursor := by rintro last ⟨⟩
  within := trivial
  samples := rfl
  quality := QualityTracker.bounded_fresh _ _ short
  rounds := rfl
  switches := Nat.le_refl 0

/-- Between two rounds the gauges change only by the drops that are given back. -/
theorem gauges_perform (controller : Controller) (operation : Operation)
    (between : operation ≠ .round) :
    (controller.perform operation).1.gauges =
      { controller.gauges with
        ledger := controller.ledger.recordDrops (controller.stepOf operation).drops } := by
  cases operation with
  | round => exact absurd rfl between
  | submit payload tier =>
      unfold stepOf perform submit
      dsimp only
      split
      · rfl
      · split
        next accepted =>
          rw [AdmissionQueues.enqueue_eq_ok accepted]
          simp only [gauges, AdmissionQueues.capacity_withItems,
            AdmissionQueues.headroom_withItems]
          rfl
        next => rfl
  | withdraw work =>
      unfold stepOf perform withdraw
      dsimp only
      split
      next => rfl
      next withdrawn =>
        obtain ⟨_, _, _, _, _, rfl⟩ := AdmissionQueues.withdraw?_eq_some withdrawn
        simp only [gauges, recordDrops, forgetItem, AdmissionQueues.capacity_withItems,
          AdmissionQueues.headroom_withItems]
        rfl
  | drain =>
      obtain ⟨_, _, _, same⟩ := controller.drainWorkers_eq
      rw [stepOf, perform, drain]
      simp only [recordDrops, same]
      rfl
  | _ => rfl

/-- Between two rounds nothing is counted but drops. -/
theorem Measured.perform (measured : controller.Measured window) (sound : controller.Sound)
    (operation : Operation) (between : operation ≠ .round) :
    (controller.perform operation).1.Measured window := by
  have gauges := controller.gauges_perform operation between
  have frame := controller.frame_perform operation between
  have size := WorkerPool.size_eq_of_layout (sound.frees_perform operation between).layout
  have guard : (controller.perform operation).1.queues.guard = controller.queues.guard :=
    congrArg (·.guard) frame
  have adaptation : (controller.perform operation).1.adaptation = controller.adaptation :=
    congrArg (·.adaptation) frame
  have policy : (controller.perform operation).1.policy = controller.policy :=
    congrArg (·.policy) gauges
  have quality : (controller.perform operation).1.quality = controller.quality :=
    congrArg (·.quality) gauges
  have cursor : (controller.perform operation).1.collector.cursor = controller.collector.cursor :=
    congrArg (·.cursor) gauges
  have ledger := controller.ledger_perform operation between
  have round := controller.round_perform operation between
  constructor
  · exact measured.windowed.perform between
  · rw [cursor, size]
    exact measured.cursor
  · rw [policy, size]
    exact measured.within
  · rw [adaptation]
    exact measured.samples
  · rw [quality, round]
    exact measured.quality
  · rw [ledger, Ledger.recordDrops_eq, round]
    exact measured.rounds
  · rw [ledger, Ledger.recordDrops_eq, round]
    exact measured.switches

/-- The completions of a round move the cursor to a worker of the pool. -/
theorem cursor_collected
    (inside : ∀ last ∈ controller.collector.cursor, last < controller.pool.size) :
    ∀ last ∈ controller.collected.gauges.cursor, last < controller.pool.size := by
  have cursor : controller.settled.controller.collector.cursor = controller.collector.cursor :=
    congrArg Gauges.cursor (gauges_settled controller)
  have size : controller.settled.controller.pool.size = controller.pool.size :=
    WorkerPool.size_eq_of_layout (WorkerPool.layout_promote controller.pool)
  have collects : controller.collected =
      controller.settled.collect (Snapshot.ofReports controller.feed) := rfl
  rw [collects, Turn.gauges_collect, ← size]
  rw [← cursor, ← size] at inside
  exact Collector.cursor_poll inside _ _

/-- After the collection a round leaves the cursor of the polls alone. -/
theorem Sound.cursor_runRound (sound : controller.Sound) :
    controller.runRound.1.collector.cursor = controller.collected.gauges.cursor := by
  have assigned := congrArg Gauges.cursor sound.gauges_assignAll
  rw [runRound_eq]
  exact assigned

/-- A round makes one observation. -/
theorem Sound.quality_runRound (sound : controller.Sound) :
    ∃ backlog active total emergency, controller.runRound.1.quality =
      controller.quality.observe backlog active total emergency := by
  rw [runRound_eq, Turn.quality_report, sound.quality_assignAll]
  exact ⟨_, _, _, _, rfl⟩

/-- A round keeps the cursor of the policy within the pool. -/
theorem Sound.within_runRound (sound : controller.Sound) (manned : 0 < controller.pool.size)
    (within : controller.policy.Within controller.pool.size) :
    controller.runRound.1.policy.Within controller.pool.size := by
  have size := WorkerPool.size_eq_of_layout controller.layout_selecting
  have selecting := within_selecting manned within
  rw [sound.policy_runRound, Policy.afterAll]
  rw [← size] at manned selecting ⊢
  split
  · exact selecting
  · exact Policy.Within.afterChoosing _ manned

/-- A round keeps the counters within their rounds. -/
theorem Measured.runRound (measured : controller.Measured window) (sound : controller.Sound)
    (manned : 0 < controller.pool.size) (positive : 0 < window) :
    controller.runRound.1.Measured window := by
  have round := sound.round_runRound
  have ledger := sound.ledger_runRound
  have size := WorkerPool.size_eq_of_layout sound.layout_runRound
  have windowed := sound.windowed_runRound positive measured.windowed
  constructor
  · exact windowed
  · rw [sound.cursor_runRound, size]
    exact cursor_collected measured.cursor
  · rw [size]
    exact sound.within_runRound manned measured.within
  · obtain ⟨utilization, policy, modes, adaptation, _⟩ := adaptation_selecting controller
    rw [sound.adaptation_runRound, adaptation]
    exact Adaptation.samples_onRound measured.samples _ _ _
  · obtain ⟨_, _, _, _, quality⟩ := sound.quality_runRound
    rw [quality, round]
    exact measured.quality.observe _ _ _ _
  · rw [ledger, round, Turn.rounds_account, measured.rounds]
  · have switches := measured.switches
    rw [ledger, round, Turn.policySwitches_account]
    split <;> omega

end Controller

/-- Whether an operation submits an item. -/
def Operation.isSubmit : Operation → Bool
  | .submit _ _ => true
  | _ => false

/-- A submission uses up one number at most. -/
theorem Controller.nextId_perform_le (controller : Controller) (operation : Operation)
    (between : operation ≠ .round) :
    (controller.perform operation).1.nextId ≤
      controller.nextId + if operation.isSubmit then 1 else 0 := by
  cases operation with
  | round => exact absurd rfl between
  | submit payload tier =>
      unfold perform submit
      dsimp only
      split
      · exact Nat.le_succ _
      · split <;> exact Nat.le_refl _
  | withdraw work =>
      unfold perform withdraw
      dsimp only
      split <;> exact Nat.le_refl _
  | drain =>
      obtain ⟨_, _, _, same⟩ := controller.drainWorkers_eq
      rw [perform, drain]
      simp only [recordDrops, same]
      exact Nat.le_refl _
  | _ => exact Nat.le_refl _

/-- The rounds and the submissions among some operations are few enough to count. -/
structure Brief (operations : List Operation) : Prop where
  rounds : operations.countP (·.isRound) ≤ Binary64.greatestWord
  submits : operations.countP (·.isSubmit) ≤ Binary64.greatestWord

/-- The first part of a brief run is brief. -/
theorem Brief.left {first second : List Operation} (brief : Brief (first ++ second)) :
    Brief first := by
  have rounds := brief.rounds
  have submits := brief.submits
  rw [List.countP_append] at rounds submits
  exact ⟨Nat.le_of_add_right_le rounds, Nat.le_of_add_right_le submits⟩

/-- The operations of a history. -/
def History.operations (history : History) : List Operation :=
  history.map (·.operation)

/-- A further operation comes last. -/
theorem History.operations_concat (history : History) (controller : Controller)
    (operation : Operation) :
    operations (history ++ [controller.stepOf operation]) = history.operations ++ [operation] := by
  rw [operations, List.map_append]
  rfl

/-- The steps of some operations are steps of these. -/
theorem History.operations_stepsOf (controller : Controller) (operations : List Operation) :
    History.operations (controller.stepsOf operations) = operations := by
  induction operations generalizing controller with
  | nil => rfl
  | cons operation rest inductionHypothesis => exact congrArg _ (inductionHypothesis _)

/-- The numbers of a configuration are machine words, its limits are too, and a memory holds a
slot for each of its workers. -/
structure Configuration.InWords (config : Configuration) : Prop where
  workers : config.pool.workers ≤ Word.greatestLength
  searchSpace : config.pool.searchSpace ≤ Binary64.greatestWord
  windowRounds : config.adaptation.windowRounds ≤ Binary64.greatestWord
  slaWindowRounds : config.quality.slaWindowRounds ≤ Word.greatestOf32
  limits : ∀ tier, config.queues.capacityFor tier + config.queues.reclaimHeadroom ≤
    Binary64.greatestWord
  capacities : config.queues.totalCapacity ≤ Binary64.greatestWord

namespace Lifetime

variable {config : Configuration} {history : History} {controller : Controller}

/-- The round is the number of rounds so far. -/
theorem round_eq_countP (lifetime : Lifetime config history controller) :
    controller.round = history.operations.countP (·.isRound) := by
  refine lifetime.invariant (motive := fun history controller =>
    controller.round = history.operations.countP (·.isRound)) rfl ?_ ?_
  · intro history before prior same
    rw [prior.ledgered.sound.round_runRound, same, History.operations_concat, List.countP_append]
    rfl
  · intro history before operation between prior same
    rw [before.round_perform operation between, same, History.operations_concat,
      List.countP_append, List.countP_singleton, Operation.isRound_eq_false between]
    rfl

/-- No more items are admitted than submitted. -/
theorem length_admitted_le (history : History) :
    history.admitted.length ≤ history.operations.countP (·.isSubmit) := by
  rw [History.admitted, List.length_filterMap_eq_countP, History.operations, List.countP_map]
  refine List.countP_mono_left fun step _ admitted => ?_
  obtain ⟨operation, round, answer⟩ := step
  cases operation with
  | submit payload tier => rfl
  | _ => cases admitted

/-- Each submission uses up at most one number. -/
theorem nextId_le (lifetime : Lifetime config history controller) :
    controller.nextId ≤ history.operations.countP (·.isSubmit) + 1 := by
  refine lifetime.invariant (motive := fun history controller =>
    controller.nextId ≤ history.operations.countP (·.isSubmit) + 1) (Nat.le_refl 1) ?_ ?_
  · intro history before prior bounded
    have same := congrArg Controller.Frame.nextId prior.ledgered.sound.frame_runRound
    simp only [Controller.frame] at same
    rw [History.operations_concat, List.countP_append, same]
    exact bounded
  · intro history before operation between prior bounded
    have next := before.nextId_perform_le operation between
    rw [History.operations_concat, List.countP_append, List.countP_singleton,
      Nat.add_right_comm]
    exact next.trans (Nat.add_le_add_right bounded _)

/-- Throughout a lifetime the counters are within their rounds. -/
theorem measured (lifetime : Lifetime config history controller) (words : config.InWords) :
    controller.Measured config.adaptation.windowRounds := by
  have positive := lifetime.accepted.passes.windowRounds
  have manned := lifetime.accepted.passes.workers
  refine lifetime.invariant (motive := fun _ controller =>
    controller.Measured config.adaptation.windowRounds) ?_ ?_ ?_
  · have start := Controller.measured_start words.slaWindowRounds
    rwa [Nat.max_eq_right positive] at start
  · intro history before prior measured
    have size := congrArg WorkerPool.Layout.workers prior.layout
    dsimp only [WorkerPool.layout] at size
    exact measured.runRound prior.ledgered.sound (size ▸ manned) positive
  · intro history before operation between prior measured
    exact measured.perform prior.ledgered.sound operation between

/-- Every item that is live was submitted. -/
theorem card_live_le (lifetime : Lifetime config history controller) :
    controller.live.card ≤ history.operations.countP (·.isSubmit) := by
  have fewer := lifetime.ledgered.accounted.card_le
  rw [Multiset.coe_card] at fewer
  exact fewer.trans (length_admitted_le history)

/-- In a history with few enough rounds and items every counter is in range. -/
theorem inRange (lifetime : Lifetime config history controller) (words : config.InWords)
    (brief : Brief history.operations) : controller.InRange := by
  have accepted := lifetime.accepted
  have hasRoom := lifetime.hasRoom
  have measured := lifetime.measured words
  have windowed := measured.windowed
  have layout := lifetime.layout
  have inside := Nat.mod_lt controller.round accepted.passes.windowRounds
  have word := words.windowRounds
  simp only [WorkerPool.layout, WorkerPool.Layout.mk.injEq] at layout
  obtain ⟨size, space, mode⟩ := layout
  constructor
  · exact ⟨size ▸ accepted.passes.workers, size ▸ words.workers, space ▸ words.searchSpace,
      fun partitioned => accepted.sliced (mode ▸ partitioned) lifetime.layout⟩
  · exact lifetime.card_live_le.trans brief.submits
  · intro tier
    rw [hasRoom.capacity, hasRoom.headroom]
    exact words.limits tier
  · exact measured.cursor
  · exact measured.within
  · exact lifetime.countsOne
  · rw [windowed.place, windowed.guard]
    exact inside
  · rw [windowed.guard]
    exact word
  · have slack := lifetime.slack_le
    unfold Binary64.greatestWord at slack ⊢
    omega
  · rw [windowed.sampled]
    exact inside.trans_le word
  · exact measured.samples
  · exact measured.quality
  · exact measured.rounds
  · exact measured.switches

end Lifetime

end PoolArbiter
