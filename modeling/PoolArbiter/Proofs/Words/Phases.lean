import PoolArbiter.Proofs.Admission.Room
import PoolArbiter.Proofs.Custody.Ledger
import PoolArbiter.Proofs.Faults.Bookkeeping
import PoolArbiter.Proofs.Words.Arithmetic

/-!
# The phases of a round in machine words

Each phase that computes with integers is repeated in words. `Turn.gauges` collects what the
words depend on and most phases leave alone. A phase works through a list of workers or of
items; `foldlM_eq_some_foldl` turns the step that does not give up into a phase that does
not.
-/

namespace PoolArbiter

/-- Steps that do not give up from states that satisfy an invariant make a run that does not
give up. -/
theorem foldlM_eq_some_foldl {α β : Type} {step? : β → α → Option β} {step : β → α → β}
    {motive : β → Prop} {values : List α} {state : β} (initial : motive state)
    (preserved : ∀ state, motive state → ∀ value ∈ values, motive (step state value))
    (agrees : ∀ state, motive state → ∀ value ∈ values,
      step? state value = some (step state value)) :
    values.foldlM step? state = some (values.foldl step state) := by
  induction values generalizing state with
  | nil => rfl
  | cons value rest inductionHypothesis =>
      have first := agrees state initial value List.mem_cons_self
      rw [List.foldlM_cons, first, List.foldl_cons]
      exact inductionHypothesis (preserved state initial value List.mem_cons_self)
        (fun later holds other member =>
          preserved later holds other (List.mem_cons_of_mem _ member))
        fun later holds other member => agrees later holds other (List.mem_cons_of_mem _ member)

/-- The sums of a ledger that count workers are within a bound. -/
structure Ledger.TotalsWithin (bound : Nat) (ledger : Ledger) : Prop where
  assigned : ledger.assigned ≤ bound
  workerFaults : ledger.workerFaults ≤ bound
  thermalPreemptions : ledger.thermalPreemptions ≤ bound
  securityReclaims : ledger.securityReclaims ≤ bound

/-- Totals within a bound are within every greater one. -/
theorem Ledger.TotalsWithin.mono {ledger : Ledger} {bound greater : Nat}
    (within : ledger.TotalsWithin bound) (less : bound ≤ greater) :
    ledger.TotalsWithin greater :=
  ⟨within.assigned.trans less, within.workerFaults.trans less,
    within.thermalPreemptions.trans less, within.securityReclaims.trans less⟩

/-- What the words depend on and only some phases change. -/
structure Gauges where
  policy : Policy
  quality : QualityTracker
  ledger : Ledger
  limits : Tier → Nat
  cursor : Option WorkerId

/-- The gauges of a controller. -/
def Controller.gauges (controller : Controller) : Gauges where
  policy := controller.policy
  quality := controller.quality
  ledger := controller.ledger
  limits tier := controller.queues.capacity tier + controller.queues.headroom tier
  cursor := controller.collector.cursor

namespace Turn

/-- The gauges of a turn. -/
def gauges (turn : Turn) : Gauges :=
  turn.controller.gauges

section Gauges

variable (turn : Turn) (snapshot : Snapshot)

/-- The gauges show the quality level. -/
theorem gauges_quality : turn.gauges.quality = turn.controller.quality :=
  rfl

/-- The gauges show the ledger. -/
theorem gauges_ledger : turn.gauges.ledger = turn.controller.ledger :=
  rfl

@[simp]
theorem gauges_publish (result : WorkResult) : (turn.publish result).gauges = turn.gauges :=
  rfl

@[simp]
theorem gauges_requeueOrDrop (item : WorkItem) :
    (turn.requeueOrDrop item).gauges = turn.gauges := by
  unfold requeueOrDrop
  dsimp only
  split
  next accepted =>
    rw [AdmissionQueues.requeue?_eq_some accepted]
    simp only [gauges, Controller.gauges, AdmissionQueues.capacity_withItems,
      AdmissionQueues.headroom_withItems, Collector.forget]
  next => rfl

@[simp]
theorem gauges_reclaimFault (worker : WorkerId) :
    (turn.reclaimFault worker).gauges = turn.gauges := by
  unfold reclaimFault
  dsimp only
  split
  · rfl
  · split
    · rfl
    · exact gauges_requeueOrDrop _ _

@[simp]
theorem gauges_preempt (worker : WorkerId) : (turn.preempt worker).gauges = turn.gauges := by
  unfold preempt
  dsimp only
  split
  · rfl
  · split
    · rfl
    · exact gauges_requeueOrDrop _ _

/-- A poll moves the cursor. -/
theorem gauges_collect :
    (turn.collect snapshot).gauges =
      { turn.gauges with
        cursor := (turn.controller.collector.poll snapshot.completions turn.controller.pool
          turn.controller.round).collector.cursor } :=
  view_foldl gauges gauges_publish _ _

theorem gauges_detectFaults : turn.detectFaults.gauges = turn.gauges :=
  view_foldl gauges gauges_reclaimFault _ _

theorem gauges_applyHealth : (turn.applyHealth snapshot).gauges = turn.gauges :=
  view_foldl gauges gauges_requeueOrDrop _ _

theorem gauges_enforceCap : (turn.enforceCap snapshot).gauges = turn.gauges :=
  view_foldl gauges gauges_preempt _ _

/-- Adaptation may put a new policy in the place of the old one. -/
theorem gauges_adapt :
    turn.adapt.gauges = { turn.gauges with policy := turn.adapt.controller.policy } := by
  unfold adapt
  dsimp only
  split <;> rfl

/-- An assignment changes nothing of the gauges but the policy. -/
theorem gauges_handOver {selection : Policy.Selection}
    (selected : turn.selection? = some selection) :
    (turn.handOver selection).gauges = { turn.gauges with policy := selection.policy } := by
  obtain ⟨_, _, ⟨tier, _, popped⟩, _⟩ := Policy.select?_eq_some selected
  obtain ⟨rest, _, queues⟩ := AdmissionQueues.popFrom?_eq_some_iff.1 popped
  have limits : (turn.handOver selection).gauges.limits = turn.gauges.limits := by
    have withGuard : ∀ read, selection.queues.capacity read + selection.queues.headroom read =
        (turn.controller.queues.withItems tier rest).capacity read +
          (turn.controller.queues.withItems tier rest).headroom read := by
      intro read
      rw [queues]
      rfl
    funext read
    simp only [gauges, Controller.gauges, handOver, withGuard,
      AdmissionQueues.capacity_withItems, AdmissionQueues.headroom_withItems]
  exact congrArg (Gauges.mk _ _ _ · _) limits

/-- Assignments change nothing of the gauges but the policy. -/
theorem Assigns.gauges_eq {turn final : Turn} (assigns : Assigns turn final) :
    final.gauges = { turn.gauges with policy := final.controller.policy } := by
  induction assigns with
  | done => rfl
  | handOver selected _ inductionHypothesis =>
      rw [inductionHypothesis, gauges_handOver _ selected]

/-- Queues with the same limits are limited alike. -/
theorem limited_of_gauges {turn next : Turn} (same : next.gauges.limits = turn.gauges.limits)
    (limited : turn.controller.queues.Limited) : next.controller.queues.Limited := by
  intro tier
  have equal := congrFun same tier
  simp only [gauges, Controller.gauges] at equal
  rw [equal]
  exact limited tier

end Gauges

section Moves

/-- Put an item back at the head of its tier, or drop it if there is no room. -/
def requeueOrDropInWords? (turn : Turn) (item : WorkItem) : Option Turn := do
  let forgotten :=
    { turn.controller with collector := turn.controller.collector.forget item.id }
  match ← turn.controller.queues.requeueInWords? item with
  | some queues =>
      return {
        controller := { forgotten with queues := queues }
        log := { turn.log with requeued := turn.log.requeued ++ [item.id] } }
  | none => return { turn with controller := forgotten }.recordDrop item .queueFull

/-- Take back the item of a worker past its time. The faults of an item are counted in 32
bits. -/
def reclaimFaultInWords? (turn : Turn) (worker : WorkerId) : Option Turn := do
  let slot ← turn.controller.pool.slot? worker
  let released : Turn :=
    { controller :=
        { turn.controller with pool := turn.controller.pool.release worker .idle }
      log := { turn.log with faulted := turn.log.faulted ++ [worker] } }
  match slot.item with
  | none => return released
  | some item =>
      let retries ← Word.within? Word.greatestOf32
        ((turn.controller.faultRetries.find? item.id).getD 0 + 1)
      let counted :=
        { released with
          controller :=
            { released.controller with
              faultRetries := turn.controller.faultRetries.insert item.id retries } }
      if 1 < retries then return counted.recordDrop item .retriesExhausted
      else counted.requeueOrDropInWords? item

/-- Idle a worker above the cap. -/
def preemptInWords? (turn : Turn) (worker : WorkerId) : Option Turn := do
  let slot ← turn.controller.pool.slot? worker
  let released :=
    { turn with
      controller :=
        { turn.controller with pool := turn.controller.pool.release worker .idle } }
  match slot.item with
  | none => return released
  | some item =>
      match turn.controller.config.thermal.reclaim with
      | .drop =>
          return { released with
            controller :=
              { released.controller with
                collector := released.controller.collector.forget item.id } }.publish
            (item.result worker .exhausted turn.controller.round)
      | .requeue => released.requeueOrDropInWords? item

variable {turn : Turn} {item : WorkItem} {worker : WorkerId} {slot : WorkerSlot}

/-- Queueing an item again does not overflow. -/
theorem requeueOrDropInWords?_eq (limited : turn.controller.queues.Limited) (item : WorkItem) :
    turn.requeueOrDropInWords? item = some (turn.requeueOrDrop item) := by
  simp only [requeueOrDropInWords?, limited.requeueInWords?_eq, Option.bind_eq_bind,
    Option.bind_some, Option.pure_def]
  unfold requeueOrDrop
  dsimp only
  cases turn.controller.queues.requeue? item <;> rfl

/-- Taking back a late item does not overflow. -/
theorem reclaimFaultInWords?_eq (limited : turn.controller.queues.Limited)
    (ones : turn.CountsOne) (found : turn.controller.pool.slot? worker = some slot) :
    turn.reclaimFaultInWords? worker = some (turn.reclaimFault worker) := by
  have held : turn.controller.pool.itemOf? worker = slot.item := by
    rw [WorkerPool.itemOf?, found]
    rfl
  unfold reclaimFaultInWords? reclaimFault
  simp only [found, held, Option.bind_eq_bind, Option.bind_some, Option.pure_def]
  cases slot.item with
  | none => rfl
  | some item =>
      have few := ones.getD_le_one item.id
      have retries : Word.within? Word.greatestOf32
          ((turn.controller.faultRetries.find? item.id).getD 0 + 1) =
            some ((turn.controller.faultRetries.find? item.id).getD 0 + 1) :=
        Word.within?_eq_some (Nat.le_trans (Nat.succ_le_succ few) (by decide))
      simp only [retries, Option.bind_some]
      split
      · rfl
      · refine requeueOrDropInWords?_eq ?_ item
        exact limited

/-- Idling a worker over the cap does not overflow. -/
theorem preemptInWords?_eq (limited : turn.controller.queues.Limited)
    (found : turn.controller.pool.slot? worker = some slot) :
    turn.preemptInWords? worker = some (turn.preempt worker) := by
  have held : turn.controller.pool.itemOf? worker = slot.item := by
    rw [WorkerPool.itemOf?, found]
    rfl
  unfold preemptInWords? preempt
  simp only [found, held, Option.bind_eq_bind, Option.bind_some, Option.pure_def]
  cases slot.item with
  | none => rfl
  | some item =>
      cases turn.controller.config.thermal.reclaim with
      | drop => rfl
      | requeue =>
          refine requeueOrDropInWords?_eq ?_ item
          exact limited

end Moves

section Phases

/-- Collect the completions of a snapshot. -/
def collectInWords? (turn : Turn) (snapshot : Snapshot) : Option Turn := do
  let polled ← turn.controller.collector.pollInWords? snapshot.completions turn.controller.pool
    turn.controller.round
  let collected :=
    { turn with
      controller :=
        { turn.controller with collector := polled.collector, pool := polled.pool } }
  return polled.yield.results.foldl publish (collected.countViolations polled.yield.untrusted)

/-- Take back the items of all workers past their time. -/
def detectFaultsInWords? (turn : Turn) : Option Turn :=
  turn.overdue.foldlM reclaimFaultInWords? turn

/-- Apply the health reports of a snapshot; items of excluded workers are queued again. -/
def applyHealthInWords? (turn : Turn) (snapshot : Snapshot) : Option Turn :=
  let applied := turn.controller.gate.applyReports turn.controller.pool snapshot.health
  let changed : Turn :=
    { controller := { turn.controller with gate := applied.gate, pool := applied.pool }
      log :=
        { turn.log with
          excluded := applied.change.excluded
          lockdownRaised := turn.log.lockdownRaised || applied.change.raised
          securityReclaims := applied.change.reclaimed.length } }
  applied.change.reclaimed.foldlM requeueOrDropInWords? changed

/-- Recompute the cap and idle the workers above it. -/
def enforceCapInWords? (turn : Turn) (snapshot : Snapshot) : Option Turn := do
  let governor :=
    turn.controller.governor.recompute turn.controller.pool.activeCount snapshot.sensor
  let forced := governor.excess turn.controller.pool
  let shed ← forced.foldlM preemptInWords?
    { turn with controller := { turn.controller with governor := governor } }
  return { shed with log := { shed.log with forcedIdle := forced } }

/-- Let adaptation see the mean load and replace the policy. -/
def adaptInWords? (turn : Turn) : Option Turn := do
  let controller := turn.controller
  let (adaptation, next) ← controller.adaptation.onRoundInWords? controller.pool.meanActiveLoad
    controller.policy controller.modes
  match next with
  | none => return { turn with controller := { controller with adaptation := adaptation } }
  | some policy =>
      return {
        controller := { controller with adaptation := adaptation, policy := policy }
        log :=
          { turn.log with policySwitch := some ⟨controller.policy.kind, policy.kind⟩ } }

/-- Hand one selected item to its worker. -/
def assignInWords? (turn : Turn) (selection : Policy.Selection) : Option (Option Turn) := do
  let range ← turn.controller.pool.rangeInWords? selection.worker
  let handed ← turn.controller.pool.assignInWords? selection.worker selection.item
    turn.controller.round
  return handed.map fun pool =>
    { controller :=
        { turn.controller with
          policy := selection.policy, queues := selection.queues, pool := pool }
      log :=
        { turn.log with
          assignments := turn.log.assignments ++
            [{ worker := selection.worker
               work := selection.item.id
               tier := selection.item.tier
               range := range
               payload := selection.item.payload }] } }

/-- What the policy selects. -/
def selectionInWords? (turn : Turn) : Option (Option Policy.Selection) :=
  turn.controller.policy.selectInWords? turn.controller.queues turn.controller.pool
    turn.controller.governor.state.activeCap

/-- Assign until the policy yields nothing, which is asked once more than there are items. -/
def assignUpToInWords? : Nat → Turn → Option Turn
  | 0, turn => do
      let _ ← turn.selectionInWords?
      return turn
  | limit + 1, turn => do
      match ← turn.selectionInWords? with
      | none => return turn
      | some selection =>
          match ← turn.assignInWords? selection with
          | some assigned => assignUpToInWords? limit assigned
          | none =>
              let taken :=
                { turn.controller with policy := selection.policy, queues := selection.queues }
              requeueOrDropInWords? ⟨taken, turn.log⟩ selection.item

/-- Assign until the policy yields nothing. -/
def assignAllInWords? (turn : Turn) : Option Turn :=
  assignUpToInWords? turn.controller.queues.totalDepth turn

/-- Observe the service quality, set the slack of the guard, and close its round. -/
def settleQualityInWords? (turn : Turn) : Option Turn := do
  let controller := turn.controller
  let backlog ← Word.fit? controller.queues.totalDepth
  let quality ← controller.quality.observeInWords? backlog controller.pool.activeCount
    controller.pool.size controller.modes.emergency
  let slack := controller.adaptation.slackFor quality.state.level
  let queues ← (controller.queues.withSlack slack).advanceInWords? turn.log.policySwitch.isSome
  let settled :=
    { controller with
      quality := quality
      queues := queues
      collector := controller.collector.retainInFlight controller.pool }
  return { turn with controller := settled }

/-- The ledger after a round. -/
def accountInWords? (ledger : Ledger) (log : RoundLog) (controller : Controller) :
    Option Ledger := do
  let finished ← ledger.recordResultsInWords? log.results
  let counted ← finished.recordDropsInWords? log.drops
  let rounds ← Word.fit? (ledger.rounds + 1)
  let assigned ← Word.fit? (ledger.assigned + log.assignments.length)
  let faults ← Word.fit? (ledger.workerFaults + log.faulted.length)
  let preemptions ← Word.fit? (ledger.thermalPreemptions + log.forcedIdle.length)
  let reclaims ← Word.fit? (ledger.securityReclaims + log.securityReclaims)
  let switches ← Word.fit? (ledger.policySwitches + if log.policySwitch.isSome then 1 else 0)
  let accounted := account ledger log controller
  return { accounted with
    found := counted.found
    exhausted := counted.exhausted
    completed := counted.completed
    turnaround := counted.turnaround
    drops := counted.drops
    rounds := rounds
    assigned := assigned
    workerFaults := faults
    thermalPreemptions := preemptions
    securityReclaims := reclaims
    policySwitches := switches }

/-- Publish the telemetry, bring the ledger up to date, and report. -/
def reportInWords? (turn : Turn) : Option (Controller × RoundReport) := do
  let figures := telemetry turn.controller
  let ledger ← accountInWords? turn.controller.ledger turn.log turn.controller
  return ({ turn.controller with ledger := ledger, lastTelemetry := some figures },
    { round := turn.controller.round, log := turn.log, telemetry := figures })

variable {turn : Turn}

/-- Collecting does not overflow. -/
theorem collectInWords?_eq (manned : turn.controller.pool.Manned)
    (cursor : ∀ last ∈ turn.controller.collector.cursor, last < turn.controller.pool.size)
    (snapshot : Snapshot) : turn.collectInWords? snapshot = some (turn.collect snapshot) := by
  simp only [collectInWords?, Collector.pollInWords?_eq manned cursor, Option.bind_eq_bind,
    Option.bind_some, Option.pure_def]
  rfl

/-- Looking for late workers does not overflow. -/
theorem detectFaultsInWords?_eq (limited : turn.controller.queues.Limited)
    (ones : turn.CountsOne) (sound : turn.controller.pool.Sound) :
    turn.detectFaultsInWords? = some turn.detectFaults := by
  have numbered : ∀ worker ∈ turn.overdue, worker < turn.controller.pool.size := by
    intro worker member
    obtain ⟨slot, late, rfl⟩ := List.mem_map.1 member
    exact sound.id_lt_size (List.mem_of_mem_filter late)
  refine foldlM_eq_some_foldl (motive := fun next : Turn => next.controller.queues.Limited ∧
    next.CountsOne ∧ next.controller.pool.size = turn.controller.pool.size)
    ⟨limited, ones, rfl⟩ ?_ ?_
  · rintro next ⟨limited, ones, size⟩ worker _
    refine ⟨limited_of_gauges (congrArg Gauges.limits (next.gauges_reclaimFault worker)) limited,
      ones.reclaimFault worker, ?_⟩
    rw [pool_reclaimFault, WorkerPool.size_release]
    exact size
  · rintro next ⟨limited, ones, size⟩ worker member
    obtain ⟨slot, found⟩ := WorkerPool.exists_slot? (size ▸ numbered worker member)
    exact reclaimFaultInWords?_eq limited ones found

/-- Exclusions do not overflow. -/
theorem applyHealthInWords?_eq (limited : turn.controller.queues.Limited) (snapshot : Snapshot) :
    turn.applyHealthInWords? snapshot = some (turn.applyHealth snapshot) := by
  refine foldlM_eq_some_foldl (motive := fun next : Turn => next.controller.queues.Limited)
    limited ?_ ?_
  · intro next limited item _
    exact limited_of_gauges (congrArg Gauges.limits (next.gauges_requeueOrDrop item)) limited
  · intro next limited item _
    exact requeueOrDropInWords?_eq limited item

/-- Enforcing the cap does not overflow. -/
theorem enforceCapInWords?_eq (limited : turn.controller.queues.Limited)
    (sound : turn.controller.pool.Sound) (snapshot : Snapshot) :
    turn.enforceCapInWords? snapshot = some (turn.enforceCap snapshot) := by
  obtain ⟨governor, isGovernor⟩ : ∃ governor, governor =
    turn.controller.governor.recompute turn.controller.pool.activeCount snapshot.sensor := ⟨_, rfl⟩
  have numbered : ∀ worker ∈ governor.excess turn.controller.pool,
      worker < turn.controller.pool.size := by
    intro worker member
    obtain ⟨slot, active, rfl⟩ := List.mem_map.1 (List.mem_of_mem_take member)
    exact sound.id_lt_size (List.mem_of_mem_filter (List.mem_reverse.1 active))
  have shed : (governor.excess turn.controller.pool).foldlM preemptInWords?
      { turn with controller := { turn.controller with governor := governor } } =
        some ((governor.excess turn.controller.pool).foldl preempt
          { turn with controller := { turn.controller with governor := governor } }) := by
    refine foldlM_eq_some_foldl (motive := fun next : Turn => next.controller.queues.Limited ∧
      next.controller.pool.size = turn.controller.pool.size) ⟨limited, rfl⟩ ?_ ?_
    · rintro next ⟨limited, size⟩ worker _
      refine ⟨limited_of_gauges (congrArg Gauges.limits (next.gauges_preempt worker)) limited, ?_⟩
      rw [pool_preempt, WorkerPool.size_release]
      exact size
    · rintro next ⟨limited, size⟩ worker member
      obtain ⟨slot, found⟩ := WorkerPool.exists_slot? (size ▸ numbered worker member)
      exact preemptInWords?_eq limited found
  unfold enforceCapInWords? enforceCap
  dsimp only
  rw [← isGovernor, shed]
  rfl

/-- The adaptation does not overflow. -/
theorem adaptInWords?_eq
    (count : turn.controller.adaptation.sampleCount + 1 ≤ Binary64.greatestWord)
    (place : turn.controller.adaptation.roundsInWindow + 1 ≤ Binary64.greatestWord) :
    turn.adaptInWords? = some turn.adapt := by
  simp only [adaptInWords?, Adaptation.onRoundInWords?_eq count place, Option.bind_eq_bind,
    Option.bind_some, Option.pure_def, adapt]
  generalize turn.controller.adaptation.onRound turn.controller.pool.meanActiveLoad
    turn.controller.policy turn.controller.modes = seen
  obtain ⟨adaptation, next⟩ := seen
  cases next <;> rfl

end Phases

section Assigning

/-- A turn from which selecting stays within the words. -/
structure Selects (turn : Turn) : Prop where
  manned : turn.controller.pool.Manned
  sound : turn.controller.pool.Sound
  few : turn.controller.queues.totalDepth ≤ Binary64.greatestWord
  within : turn.controller.policy.Within turn.controller.pool.size
  inside : turn.controller.queues.guard.roundInWindow ≤ turn.controller.queues.guard.window
  slack : turn.controller.queues.guard.slack + 5 ≤ Binary64.greatestWord

variable {turn : Turn} {selection : Policy.Selection}

/-- A selection of the turn does not overflow. -/
theorem Selects.selectionInWords?_eq (selects : turn.Selects) :
    turn.selectionInWords? = some turn.selection? :=
  selects.within.selectInWords?_eq selects.manned selects.sound selects.few selects.inside
    selects.slack _

/-- After an assignment further selections do not overflow. -/
theorem Selects.handOver (selects : turn.Selects) (selected : turn.selection? = some selection) :
    (turn.handOver selection).Selects := by
  have layout := layout_handOver turn selection
  have size := WorkerPool.size_eq_of_layout layout
  obtain ⟨_, _, ⟨tier, _, popped⟩, policy⟩ := Policy.select?_eq_some selected
  obtain ⟨_, _, queues⟩ := AdmissionQueues.popFrom?_eq_some_iff.1 popped
  have marked : (turn.handOver selection).controller.queues.guard =
      turn.controller.queues.guard.markServiced tier := by
    simp only [Turn.handOver, queues]
  have waiting := congrArg Multiset.card (contents_handOver selected)
  rw [Multiset.card_cons, AdmissionQueues.card_contents, AdmissionQueues.card_contents] at waiting
  constructor
  · exact selects.manned.of_layout layout
  · exact sound_handOver selects.sound selected
  · exact Nat.le_trans (waiting ▸ Nat.le_succ _) selects.few
  · rw [size]
    have moved : (turn.handOver selection).controller.policy =
        turn.controller.policy.afterChoosing turn.controller.pool selection.worker := policy
    rw [moved]
    exact Policy.Within.afterChoosing _ selects.manned.manned
  · rw [marked]
    exact selects.inside
  · rw [marked]
    exact selects.slack

/-- An assignment does not overflow. -/
theorem Selects.assignInWords?_eq (selects : turn.Selects)
    (selected : turn.selection? = some selection) :
    turn.assignInWords? selection = some (turn.assign? selection) := by
  obtain ⟨slot, found, _⟩ := eligible_of_selection? selects.sound selected
  have inside : selection.worker < turn.controller.pool.size :=
    (List.getElem?_eq_some_iff.1 found).1
  simp only [assignInWords?, selects.manned.rangeInWords?_eq_rangeFor inside,
    selects.manned.assignInWords?_eq found, Option.bind_eq_bind, Option.bind_some,
    Option.pure_def, assign?]
  cases turn.controller.pool.assign? selection.worker selection.item turn.controller.round <;> rfl

/-- Any number of assignments do not overflow. -/
theorem Selects.assignUpToInWords?_eq (selects : turn.Selects) (limit : Nat) :
    assignUpToInWords? limit turn = some (assignUpTo limit turn) := by
  induction limit generalizing turn with
  | zero =>
      simp only [assignUpToInWords?, selects.selectionInWords?_eq, Option.bind_eq_bind,
        Option.bind_some, Option.pure_def, assignUpTo]
  | succ limit inductionHypothesis =>
      simp only [assignUpToInWords?, selects.selectionInWords?_eq, Option.bind_eq_bind,
        Option.bind_some, Option.pure_def]
      unfold assignUpTo
      dsimp only
      cases selected : turn.selection? with
      | none =>
          rw [selection?] at selected
          rw [selected]
      | some selection =>
          have handed := assign?_of_selection? selects.sound selected
          simp only [selects.assignInWords?_eq selected, handed, Option.bind_some]
          rw [selection?] at selected
          rw [selected]
          dsimp only
          rw [handed]
          exact inductionHypothesis (selects.handOver selected)

end Assigning

section Closing

variable {turn : Turn} {rounds : Nat}

/-- Settling the quality level does not overflow. -/
theorem settleQualityInWords?_eq
    (few : turn.controller.queues.totalDepth ≤ Binary64.greatestWord)
    (bounded : turn.controller.quality.Bounded rounds) (fewer : rounds + 1 ≤ Binary64.greatestWord)
    (inside : turn.controller.queues.guard.roundInWindow < turn.controller.queues.guard.window)
    (word : turn.controller.queues.guard.window ≤ Binary64.greatestWord) :
    turn.settleQualityInWords? = some turn.settleQuality := by
  simp only [settleQualityInWords?, Word.fit?_eq_some few, bounded.observeInWords?_eq fewer,
    Option.bind_eq_bind, Option.bind_some, Option.pure_def]
  have advanced : ∀ slack, (turn.controller.queues.withSlack slack).advanceInWords?
      turn.log.policySwitch.isSome =
        some ((turn.controller.queues.withSlack slack).advance turn.log.policySwitch.isSome) := by
    intro slack
    refine AdmissionQueues.advanceInWords?_eq ?_ ?_ _
    · exact inside
    · exact word
  rw [advanced]
  rfl

end Closing

end Turn

end PoolArbiter
