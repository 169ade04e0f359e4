import PoolArbiter.Controller.Basic

/-!
# One decision round

A round is a chain of phases, each a function from a turn to the next: promote
the assignments of the last round; settle verdicts and collect completions; take
back items from workers past their time; apply the health reports; bring the
workers at work under the cap; let adaptation replace the policy; assign until
the policy yields nothing; and close the books. A turn is the controller with
the log of what the round has done so far.
-/

namespace PoolArbiter

/-- The controller in the middle of a round. -/
structure Turn where
  controller : Controller
  log : RoundLog

namespace Turn

/-- Count a violation for each of several workers. -/
def countViolations (turn : Turn) (workers : List WorkerId) : Turn :=
  let (gate, raised) := turn.controller.gate.countViolations workers.length
  { controller := { turn.controller with gate := gate }
    log := { turn.log with lockdownRaised := turn.log.lockdownRaised || raised } }

/-- Publish a result. -/
def publish (turn : Turn) (result : WorkResult) : Turn where
  controller :=
    { turn.controller with
      faultRetries := turn.controller.faultRetries.erase result.work
      hits := turn.controller.hits.publish result }
  log := { turn.log with results := turn.log.results ++ [result] }

/-- Record that an item ends without a result. -/
def recordDrop (turn : Turn) (item : WorkItem) (reason : DropReason) : Turn where
  controller :=
    { turn.controller with
      faultRetries := turn.controller.faultRetries.erase item.id
      collector := turn.controller.collector.forget item.id }
  log :=
    { turn.log with
      drops := turn.log.drops ++ [item.dropRecord reason turn.controller.round] }

/-- Put an item back at the head of its tier, or drop it if there is no room. -/
def requeueOrDrop (turn : Turn) (item : WorkItem) : Turn :=
  let forgotten :=
    { turn.controller with collector := turn.controller.collector.forget item.id }
  match turn.controller.queues.requeue? item with
  | some queues =>
      { controller := { forgotten with queues := queues }
        log := { turn.log with requeued := turn.log.requeued ++ [item.id] } }
  | none => { turn with controller := forgotten }.recordDrop item .queueFull

/-- Settle the verdicts of a snapshot; failures that come late are violations. -/
def settleVerdicts (turn : Turn) (snapshot : Snapshot) : Turn :=
  let (collector, late) :=
    turn.controller.collector.recordVerdicts snapshot.verdicts turn.controller.pool
  { turn with controller := { turn.controller with collector := collector } }.countViolations
    late

/-- Collect the completions of a snapshot and publish their results. -/
def collect (turn : Turn) (snapshot : Snapshot) : Turn :=
  let polled :=
    turn.controller.collector.poll snapshot.completions turn.controller.pool
      turn.controller.round
  let collected :=
    { turn with
      controller :=
        { turn.controller with collector := polled.collector, pool := polled.pool } }
  polled.yield.results.foldl publish (collected.countViolations polled.yield.untrusted)

/-- The rounds that a worker may take: a multiple of its mean, or a minimum. -/
def timeout (settings : PoolSettings) (slot : WorkerSlot) : Nat :=
  max (Binary64.ceilWord (slot.latency.toFloat * settings.faultTimeoutFactor))
    settings.faultMinRounds

/-- Whether a worker is at work and past its time. -/
def isOverdue (settings : PoolSettings) (round : Round) (slot : WorkerSlot) : Bool :=
  slot.isActive && timeout settings slot < slot.elapsed round

/-- Take back the item of a worker past its time. The item is queued again the
first time and dropped the second time. -/
def reclaimFault (turn : Turn) (worker : WorkerId) : Turn :=
  let item? := turn.controller.pool.itemOf? worker
  let released : Turn :=
    { controller :=
        { turn.controller with pool := turn.controller.pool.release worker .idle }
      log := { turn.log with faulted := turn.log.faulted ++ [worker] } }
  match item? with
  | none => released
  | some item =>
      let retries := (turn.controller.faultRetries.find? item.id).getD 0 + 1
      let counted :=
        { released with
          controller :=
            { released.controller with
              faultRetries := turn.controller.faultRetries.insert item.id retries } }
      if 1 < retries then counted.recordDrop item .retriesExhausted
      else counted.requeueOrDrop item

/-- Take back the items of all workers past their time. -/
def detectFaults (turn : Turn) : Turn :=
  let controller := turn.controller
  let overdue :=
    controller.pool.slots.filter (isOverdue controller.config.pool controller.round)
  (overdue.map (·.id)).foldl reclaimFault turn

/-- Apply the health reports of a snapshot; items of excluded workers are queued
again. -/
def applyHealth (turn : Turn) (snapshot : Snapshot) : Turn :=
  let applied := turn.controller.gate.applyReports turn.controller.pool snapshot.health
  let changed : Turn :=
    { controller := { turn.controller with gate := applied.gate, pool := applied.pool }
      log :=
        { turn.log with
          excluded := applied.change.excluded
          lockdownRaised := turn.log.lockdownRaised || applied.change.raised
          securityReclaims := applied.change.reclaimed.length } }
  applied.change.reclaimed.foldl requeueOrDrop changed

/-- Idle a worker above the cap; its item ends as exhausted or is queued again. -/
def preempt (turn : Turn) (worker : WorkerId) : Turn :=
  let item? := turn.controller.pool.itemOf? worker
  let released :=
    { turn with
      controller :=
        { turn.controller with pool := turn.controller.pool.release worker .idle } }
  match item? with
  | none => released
  | some item =>
      match turn.controller.config.thermal.reclaim with
      | .drop =>
          { released with
            controller :=
              { released.controller with
                collector := released.controller.collector.forget item.id } }.publish
            (item.result worker .exhausted turn.controller.round)
      | .requeue => released.requeueOrDrop item

/-- Recompute the cap and idle the workers above it. -/
def enforceCap (turn : Turn) (snapshot : Snapshot) : Turn :=
  let governor :=
    turn.controller.governor.recompute turn.controller.pool.activeCount snapshot.sensor
  let forced := governor.excess turn.controller.pool
  let shed :=
    forced.foldl preempt { turn with controller := { turn.controller with governor := governor } }
  { shed with log := { shed.log with forcedIdle := forced } }

/-- Let adaptation see the mean load and replace the policy. -/
def adapt (turn : Turn) : Turn :=
  let controller := turn.controller
  let (adaptation, next) :=
    controller.adaptation.onRound controller.pool.meanActiveLoad controller.policy
      controller.modes
  match next with
  | none => { turn with controller := { controller with adaptation := adaptation } }
  | some policy =>
      { controller := { controller with adaptation := adaptation, policy := policy }
        log :=
          { turn.log with policySwitch := some ⟨controller.policy.kind, policy.kind⟩ } }

/-- Hand one selected item to its worker. -/
def assign? (turn : Turn) (selection : Policy.Selection) : Option Turn := do
  let controller := turn.controller
  let pool ← controller.pool.assign? selection.worker selection.item controller.round
  return {
    controller :=
      { controller with policy := selection.policy, queues := selection.queues, pool := pool }
    log :=
      { turn.log with
        assignments := turn.log.assignments ++
          [{ worker := selection.worker
             work := selection.item.id
             tier := selection.item.tier
             range := controller.pool.rangeFor selection.worker
             payload := selection.item.payload }] } }

/-- Assign until the policy yields nothing, at most a number of times. A worker
that refuses ends the assignments, and its item is queued again. -/
def assignUpTo : Nat → Turn → Turn
  | 0, turn => turn
  | limit + 1, turn =>
      let controller := turn.controller
      match controller.policy.select? controller.queues controller.pool
          controller.governor.state.activeCap with
      | none => turn
      | some selection =>
          match turn.assign? selection with
          | some assigned => assignUpTo limit assigned
          | none =>
              { turn with
                controller :=
                  { controller with
                    policy := selection.policy, queues := selection.queues } }.requeueOrDrop
                selection.item

/-- Assign until the policy yields nothing. Each assignment takes an item from
the queues, so there are no more of them than items. -/
def assignAll (turn : Turn) : Turn :=
  assignUpTo turn.controller.queues.totalDepth turn

/-- Observe the service quality, set the slack of the starvation guard, close its
round, and forget the verdicts on items that are not at work any more. -/
def settleQuality (turn : Turn) : Turn :=
  let controller := turn.controller
  let quality :=
    controller.quality.observe controller.queues.totalDepth controller.pool.activeCount
      controller.pool.size controller.modes.emergency
  let slack := controller.adaptation.slackFor quality.state.level
  { turn with
    controller :=
      { controller with
        quality := quality
        queues :=
          (controller.queues.withSlack slack).advance turn.log.policySwitch.isSome
        collector := controller.collector.retainInFlight controller.pool } }

/-- The figures at the end of a round. -/
def telemetry (controller : Controller) : Telemetry where
  round := controller.round
  level := controller.quality.state.level
  activeCount := controller.pool.activeCount
  queueDepths := controller.queues.depths
  activeCap := controller.governor.state.activeCap
  throttled := controller.governor.state.throttled
  lockdown := controller.gate.lockdown
  policy := controller.policy.kind
  estimatedPower := controller.governor.state.power
  estimatedTemp := controller.governor.state.temperature

/-- The ledger after a round. -/
def account (ledger : Ledger) (log : RoundLog) (controller : Controller) : Ledger :=
  let counted := (ledger.recordResults log.results).recordDrops log.drops
  { counted with
    rounds := ledger.rounds + 1
    assigned := ledger.assigned + log.assignments.length
    workerFaults := ledger.workerFaults + log.faulted.length
    thermalPreemptions := ledger.thermalPreemptions + log.forcedIdle.length
    securityReclaims := ledger.securityReclaims + log.securityReclaims
    policySwitches := ledger.policySwitches + if log.policySwitch.isSome then 1 else 0
    currentPolicy := controller.policy.kind
    workerUtilization :=
      if controller.pool.slots.isEmpty then 0
      else Float.ofNat controller.pool.activeCount / Float.ofNat controller.pool.size
    utilizationHistory :=
      if controller.adaptation.history.items.isEmpty then ledger.utilizationHistory
      else controller.adaptation.history.items }

/-- Publish the telemetry, bring the ledger up to date, and report. -/
def report (turn : Turn) : Controller × RoundReport :=
  let figures := telemetry turn.controller
  ({ turn.controller with
      ledger := account turn.controller.ledger turn.log turn.controller
      lastTelemetry := some figures },
    { round := turn.controller.round, log := turn.log, telemetry := figures })

end Turn

namespace Controller

/-- Begin a round: take the number of the round, promote the assignments of the
last one, and empty the feed. -/
def beginRound (controller : Controller) : Turn where
  controller :=
    { controller with
      round := controller.round + 1
      pool := controller.pool.promote
      feed := [] }
  log := {}

/-- Run one decision round. -/
def runRound (controller : Controller) : Controller × RoundReport :=
  let snapshot := Snapshot.ofReports controller.feed
  ((((controller.beginRound.settleVerdicts snapshot).collect snapshot).detectFaults.applyHealth
    snapshot).enforceCap snapshot).adapt.assignAll.settleQuality.report

end Controller

end PoolArbiter
