import PoolArbiter.Proofs.Round.Books
import PoolArbiter.Proofs.Starvation.Alignment
import PoolArbiter.Proofs.Words.Phases

/-!
# A round in machine words

`Controller.runRoundInWords?` is a round in which every phase computes in words. A controller
whose counters are in range (`Controller.InRange`) does not give up in its next round and does
what it would do with numbers of any size.
-/

namespace PoolArbiter

namespace Ledger

variable {ledger : Ledger} {results : List WorkResult} {drops : List DropRecord} {assigned : Nat}

/-- While the results are fewer than the words, counting one does not overflow. -/
theorem Counts.recordResultInWords?_eq (counts : ledger.Counts results drops assigned)
    (few : results.length + 1 ≤ Binary64.greatestWord) (result : WorkResult) :
    ledger.recordResultInWords? result = some (ledger.recordResult result) := by
  have atMost : ∀ (test : WorkResult → Bool), results.countP test ≤ results.length :=
    fun _ => List.countP_le_length
  have found : Word.fit? (ledger.found + if result.outcome.isFound then 1 else 0) =
      some (ledger.found + if result.outcome.isFound then 1 else 0) := by
    have bounded := counts.found ▸ atMost (·.outcome.isFound)
    refine Word.fit?_eq_some ?_
    split <;> omega
  have exhausted : Word.fit? (ledger.exhausted + if result.outcome.isFound then 0 else 1) =
      some (ledger.exhausted + if result.outcome.isFound then 0 else 1) := by
    have bounded := counts.exhausted ▸ atMost (!·.outcome.isFound)
    refine Word.fit?_eq_some ?_
    split <;> omega
  have completed : Word.fit? (ledger.completed.get result.tier + 1) =
      some (ledger.completed.get result.tier + 1) := by
    have bounded := counts.completed result.tier ▸ atMost (·.tier = result.tier)
    exact Word.fit?_eq_some (by omega)
  simp only [recordResultInWords?, found, exhausted, completed, Option.bind_eq_bind,
    Option.bind_some, Option.pure_def]
  rfl

/-- While the results are fewer than the words, counting some does not overflow. -/
theorem Counts.recordResultsInWords?_eq (counts : ledger.Counts results drops assigned)
    (more : List WorkResult) (few : results.length + more.length ≤ Binary64.greatestWord) :
    ledger.recordResultsInWords? more = some (ledger.recordResults more) := by
  unfold recordResultsInWords? Ledger.recordResults
  induction more generalizing ledger results with
  | nil => rfl
  | cons result rest inductionHypothesis =>
      rw [List.length_cons] at few
      have first := counts.recordResultInWords?_eq (by omega) result
      rw [List.foldlM_cons, first, List.foldl_cons]
      refine inductionHypothesis (counts.recordResult result) ?_
      rw [List.length_append, List.length_singleton]
      omega

/-- While the drops are fewer than the words, counting some does not overflow. -/
theorem Counts.recordDropsInWords?_eq (counts : ledger.Counts results drops assigned)
    (more : List DropRecord) (few : drops.length + more.length ≤ Binary64.greatestWord) :
    ledger.recordDropsInWords? more = some (ledger.recordDrops more) := by
  unfold recordDropsInWords? Ledger.recordDrops
  induction more generalizing ledger drops with
  | nil => rfl
  | cons drop rest inductionHypothesis =>
      rw [List.length_cons] at few
      have bounded : ledger.drops.get drop.reason ≤ drops.length :=
        counts.drops drop.reason ▸ List.countP_le_length
      have count : Word.fit? (ledger.drops.get drop.reason + 1) =
          some (ledger.drops.get drop.reason + 1) := Word.fit?_eq_some (by omega)
      have first : ledger.recordDropInWords? drop = some (ledger.recordDrop drop) := by
        simp only [recordDropInWords?, count, Option.bind_eq_bind, Option.bind_some,
          Option.pure_def]
      rw [List.foldlM_cons, first, List.foldl_cons]
      refine inductionHypothesis (counts.recordDrop drop) ?_
      rw [List.length_append, List.length_singleton]
      omega

end Ledger

/-- The results and the drops of a history, and those of a log, are few enough to count. -/
structure FewRecords (results : List WorkResult) (drops : List DropRecord) (log : RoundLog) :
    Prop where
  results : results.length + log.results.length ≤ Binary64.greatestWord
  drops : drops.length + log.drops.length ≤ Binary64.greatestWord

namespace Turn

variable {turn : Turn} {results : List WorkResult} {drops : List DropRecord} {assigned : Nat}

/-- Booking a round does not overflow if its totals are words. -/
theorem accountInWords?_eq {ledger : Ledger} {log : RoundLog}
    (counts : ledger.Counts results drops assigned) (records : FewRecords results drops log)
    (rounds : ledger.rounds + 1 ≤ Binary64.greatestWord)
    (switches : ledger.policySwitches ≤ ledger.rounds) {controller : Controller}
    (totals : (account ledger log controller).TotalsWithin Binary64.greatestWord) :
    accountInWords? ledger log controller = some (account ledger log controller) := by
  have round : Word.fit? (ledger.rounds + 1) = some (ledger.rounds + 1) :=
    Word.fit?_eq_some rounds
  have switched :
      Word.fit? (ledger.policySwitches + if log.policySwitch.isSome then 1 else 0) =
        some (ledger.policySwitches + if log.policySwitch.isSome then 1 else 0) := by
    refine Word.fit?_eq_some ?_
    split <;> omega
  have assigned : Word.fit? (ledger.assigned + log.assignments.length) =
      some (ledger.assigned + log.assignments.length) := Word.fit?_eq_some totals.assigned
  have faults : Word.fit? (ledger.workerFaults + log.faulted.length) =
      some (ledger.workerFaults + log.faulted.length) := Word.fit?_eq_some totals.workerFaults
  have preemptions : Word.fit? (ledger.thermalPreemptions + log.forcedIdle.length) =
      some (ledger.thermalPreemptions + log.forcedIdle.length) :=
    Word.fit?_eq_some totals.thermalPreemptions
  have reclaims : Word.fit? (ledger.securityReclaims + log.securityReclaims) =
      some (ledger.securityReclaims + log.securityReclaims) :=
    Word.fit?_eq_some totals.securityReclaims
  simp only [accountInWords?, counts.recordResultsInWords?_eq _ records.results,
    (counts.recordResults log.results).recordDropsInWords?_eq _ records.drops, round, assigned,
    faults, preemptions, reclaims, switched, Option.bind_eq_bind, Option.bind_some,
    Option.pure_def]
  rfl

/-- What is accounted for in words has sums that are words. -/
theorem totalsWithin_of_accountInWords? {ledger next : Ledger} {log : RoundLog}
    {controller : Controller} (accounted : accountInWords? ledger log controller = some next) :
    (account ledger log controller).TotalsWithin Binary64.greatestWord := by
  simp only [accountInWords?, Option.bind_eq_bind, Option.bind_eq_some_iff, Word.fit?_eq_some_iff]
    at accounted
  obtain ⟨_, _, _, _, _, _, _, ⟨assigned, _⟩, _, ⟨faults, _⟩, _, ⟨preemptions, _⟩, _,
    ⟨reclaims, _⟩, _⟩ := accounted
  exact ⟨assigned, faults, preemptions, reclaims⟩

/-- Settling the quality level leaves the ledger alone. -/
theorem ledger_settleQuality (turn : Turn) :
    turn.settleQuality.controller.ledger = turn.controller.ledger :=
  rfl

/-- Settling the quality level leaves the log alone. -/
theorem log_settleQuality (turn : Turn) : turn.settleQuality.log = turn.log :=
  rfl

/-- The end of a round does not overflow if its totals are words. -/
theorem reportInWords?_eq (counts : turn.controller.ledger.Counts results drops assigned)
    (records : FewRecords results drops turn.log)
    (rounds : turn.controller.ledger.rounds + 1 ≤ Binary64.greatestWord)
    (switches : turn.controller.ledger.policySwitches ≤ turn.controller.ledger.rounds)
    (totals : turn.report.1.ledger.TotalsWithin Binary64.greatestWord) :
    turn.reportInWords? = some turn.report := by
  simp only [reportInWords?, accountInWords?_eq counts records rounds switches totals,
    Option.bind_eq_bind, Option.bind_some, Option.pure_def]
  rfl

/-- If the end of a round does not overflow, its totals are words. -/
theorem totalsWithin_of_reportInWords? {reported : Controller × RoundReport}
    (ran : turn.reportInWords? = some reported) :
    turn.report.1.ledger.TotalsWithin Binary64.greatestWord := by
  obtain ⟨_, accounted, _⟩ := Option.bind_eq_some_iff.1 ran
  exact totalsWithin_of_accountInWords? accounted

end Turn

namespace Controller

/-- Begin a round. -/
def beginRoundInWords? (controller : Controller) : Option Turn := do
  let round ← Word.fit? (controller.round + 1)
  let begun := { controller with round := round, pool := controller.pool.promote, feed := [] }
  return ⟨begun, {}⟩

/-- Run one decision round. -/
def runRoundInWords? (controller : Controller) : Option (Controller × RoundReport) := do
  let snapshot := Snapshot.ofReports controller.feed
  let begun ← controller.beginRoundInWords?
  let collected ← (begun.settleVerdicts snapshot).collectInWords? snapshot
  let inspected ← collected.detectFaultsInWords?
  let vetted ← inspected.applyHealthInWords? snapshot
  let capped ← vetted.enforceCapInWords? snapshot
  let adapted ← capped.adaptInWords?
  let assigned ← adapted.assignAllInWords?
  let settled ← assigned.settleQualityInWords?
  settled.reportInWords?

/-- The counters of a controller are in range. -/
structure InRange (controller : Controller) : Prop where
  manned : controller.pool.Manned
  /-- The items that are queued or at work can be counted. -/
  few : controller.live.card ≤ Binary64.greatestWord
  limited : controller.queues.Limited
  /-- The collector and the policy stand at workers of the pool. -/
  cursor : ∀ last ∈ controller.collector.cursor, last < controller.pool.size
  within : controller.policy.Within controller.pool.size
  ones : controller.CountsOne
  /-- The guard and the adaptation are inside their windows. -/
  inside : controller.queues.guard.roundInWindow < controller.queues.guard.window
  word : controller.queues.guard.window ≤ Binary64.greatestWord
  slack : controller.queues.guard.slack + 5 ≤ Binary64.greatestWord
  place : controller.adaptation.roundsInWindow < Binary64.greatestWord
  samples : controller.adaptation.sampleCount = controller.adaptation.roundsInWindow
  quality : controller.quality.Bounded controller.round
  rounds : controller.ledger.rounds = controller.round
  switches : controller.ledger.policySwitches ≤ controller.round

variable {controller : Controller} {results : List WorkResult} {drops : List DropRecord}
  {assigned : Nat}

/-- Verdicts leave the cursor where it is. -/
theorem gauges_settled (controller : Controller) :
    controller.settled.gauges = controller.gauges := by
  have cursor : (controller.collector.recordVerdicts (Snapshot.ofReports controller.feed).verdicts
      controller.beginRound.controller.pool).1.cursor = controller.collector.cursor := by
    refine List.foldlRecOn (motive := fun state : Collector × List WorkerId =>
      state.1.cursor = controller.collector.cursor) _ _ rfl ?_
    rintro ⟨collector, late⟩ same verdict _
    unfold Collector.recordVerdict
    dsimp only
    split
    · exact same
    · split <;> exact same
  exact congrArg (Gauges.mk _ _ _ _) cursor

/-- Up to the collection only the cursor of the polls moves. -/
theorem gauges_collected (controller : Controller) :
    controller.collected.gauges =
      { controller.gauges with cursor := controller.collected.gauges.cursor } := by
  have moved := controller.settled.gauges_collect (Snapshot.ofReports controller.feed)
  rw [gauges_settled] at moved
  have collects : controller.collected =
      controller.settled.collect (Snapshot.ofReports controller.feed) := rfl
  rw [collects, moved]

/-- Until the cap is enforced a round moves no gauge but the cursor of the collector. -/
theorem gauges_capped (controller : Controller) :
    controller.capped.gauges =
      { controller.gauges with cursor := controller.collected.gauges.cursor } := by
  rw [capped, Turn.gauges_enforceCap, Controller.vetted, Turn.gauges_applyHealth,
    Controller.inspected, Turn.gauges_detectFaults, gauges_collected]

/-- Up to the report the gauges change by cursor, policy and adaptation only. -/
theorem Sound.gauges_assignAll (sound : controller.Sound) :
    controller.selecting.assignAll.gauges =
      { controller.gauges with
        policy := controller.selecting.assignAll.controller.policy
        cursor := controller.collected.gauges.cursor } := by
  rw [(Turn.assignAll_assigns sound.selecting.sound).gauges_eq, selecting_eq, Turn.gauges_adapt,
    gauges_capped]

/-- Up to the report the quality level stays as it is. -/
theorem Sound.quality_assignAll (sound : controller.Sound) :
    controller.selecting.assignAll.controller.quality = controller.quality := by
  rw [← Turn.gauges_quality, sound.gauges_assignAll]
  rfl

/-- Up to the report the ledger stays as it is. -/
theorem Sound.ledger_assignAll (sound : controller.Sound) :
    controller.selecting.assignAll.controller.ledger = controller.ledger := by
  rw [← Turn.gauges_ledger, sound.gauges_assignAll]
  rfl

/-- Up to the assignments the layout stays as it is. -/
theorem layout_selecting (controller : Controller) :
    controller.selecting.controller.pool.layout = controller.pool.layout := by
  rw [controller.frees_before_assigning.layout, WorkerPool.layout_promote]

/-- Up to the cap the policy stays as it is. -/
theorem policy_capped (controller : Controller) :
    controller.capped.controller.policy = controller.policy :=
  congrArg Gauges.policy (gauges_capped controller)

/-- A policy that adaptation puts in place starts at the first worker. -/
theorem within_selecting (manned : 0 < controller.pool.size)
    (within : controller.policy.Within controller.pool.size) :
    controller.selecting.controller.policy.Within controller.pool.size := by
  rw [selecting_eq]
  unfold Turn.adapt Adaptation.onRound
  dsimp only
  rw [policy_capped]
  split
  · exact within
  next policy replaced =>
    split at replaced
    · cases replaced
    · dsimp only at replaced
      split at replaced
      · cases replaced
      · obtain rfl := Option.some.inj replaced
        unfold Adaptation.policyOf Policy.ofKind
        split
        · exact manned
        · trivial
        · trivial
        · trivial

/-- Items are only moved in a round, so no more of them wait than were live before it. -/
theorem totalDepth_le_of_keeps {turn : Turn} (keeps : turn.Keeps controller.live 0) :
    turn.controller.queues.totalDepth ≤ controller.live.card := by
  have fewer := keeps.accounted.card_le
  rw [zero_add, Multiset.card_add, AdmissionQueues.card_contents] at fewer
  exact Nat.le_trans (Nat.le_add_right _ _) fewer

namespace InRange

variable (inRange : controller.InRange)
include inRange

/-- Up to the cap the limits of the queues stay words. -/
theorem limited_of_capped {turn : Turn}
    (same : turn.gauges.limits = controller.gauges.limits) : turn.controller.queues.Limited :=
  @Turn.limited_of_gauges ⟨controller, {}⟩ turn same inRange.limited

/-- The collection of a round does not overflow. -/
theorem collectInWords?_eq :
    controller.settled.collectInWords? (Snapshot.ofReports controller.feed) =
      some controller.collected := by
  have layout : controller.settled.controller.pool.layout = controller.pool.layout :=
    WorkerPool.layout_promote controller.pool
  have cursor : controller.settled.controller.collector.cursor = controller.collector.cursor :=
    congrArg Gauges.cursor (gauges_settled controller)
  refine Turn.collectInWords?_eq (inRange.manned.of_layout layout) ?_ _
  rw [cursor, WorkerPool.size_eq_of_layout layout]
  exact inRange.cursor

/-- The search of a round for late workers does not overflow. -/
theorem detectFaultsInWords?_eq (sound : controller.Sound) :
    controller.collected.detectFaultsInWords? = some controller.inspected := by
  refine Turn.detectFaultsInWords?_eq (inRange.limited_of_capped ?_) inRange.ones.collected
    sound.collected.sound
  rw [gauges_collected]

/-- The exclusions of a round do not overflow. -/
theorem applyHealthInWords?_eq :
    controller.inspected.applyHealthInWords? (Snapshot.ofReports controller.feed) =
      some controller.vetted := by
  refine Turn.applyHealthInWords?_eq (inRange.limited_of_capped ?_) _
  rw [Controller.inspected, Turn.gauges_detectFaults, gauges_collected]

/-- The cap of a round does not overflow. -/
theorem enforceCapInWords?_eq (sound : controller.Sound) :
    controller.vetted.enforceCapInWords? (Snapshot.ofReports controller.feed) =
      some controller.capped := by
  refine Turn.enforceCapInWords?_eq (inRange.limited_of_capped ?_) sound.vetted.sound _
  have same := congrArg Gauges.limits (gauges_capped controller)
  rwa [capped, Turn.gauges_enforceCap] at same

/-- The adaptation of a round does not overflow. -/
theorem adaptInWords?_eq : controller.capped.adaptInWords? = some controller.selecting := by
  have place := inRange.place
  refine Turn.adaptInWords?_eq ?_ ?_
  · rw [adaptation_capped, inRange.samples]
    exact place
  · rw [adaptation_capped]
    exact place

/-- The selections of a round do not overflow. -/
theorem selects (sound : controller.Sound) : controller.selecting.Selects where
  manned := inRange.manned.of_layout controller.layout_selecting
  sound := sound.selecting.sound
  few := (totalDepth_le_of_keeps sound.selecting).trans inRange.few
  within := by
    rw [WorkerPool.size_eq_of_layout controller.layout_selecting]
    exact within_selecting inRange.manned.manned inRange.within
  inside := by
    rw [guard_selecting]
    exact inRange.inside.le
  slack := by
    rw [guard_selecting]
    exact inRange.slack

/-- The quality level of a round does not overflow. -/
theorem settleQualityInWords?_eq (sound : controller.Sound)
    (round : controller.round + 1 ≤ Binary64.greatestWord) :
    controller.selecting.assignAll.settleQualityInWords? =
      some controller.selecting.assignAll.settleQuality := by
  have assigns := Turn.assignAll_assigns sound.selecting.sound
  have few := (totalDepth_le_of_keeps (sound.selecting.assigns assigns)).trans inRange.few
  have quality := inRange.quality
  have inside := inRange.inside
  have word := inRange.word
  obtain ⟨window, place⟩ :=
    (assigns.reaches sound.selecting.sound .start).place sound.selecting.sound
  rw [guard_selecting] at window place
  rw [← sound.quality_assignAll] at quality
  rw [← window] at inside word
  rw [← place] at inside
  exact Turn.settleQualityInWords?_eq few quality round inside word

/-- The report of a round does not overflow if its totals are words. -/
theorem reportInWords?_eq (sound : controller.Sound)
    (counts : controller.ledger.Counts results drops assigned)
    (records : FewRecords results drops controller.runRound.2.log)
    (round : controller.round + 1 ≤ Binary64.greatestWord)
    (totals : controller.runRound.1.ledger.TotalsWithin Binary64.greatestWord) :
    controller.selecting.assignAll.settleQuality.reportInWords? = some controller.runRound := by
  have ledger : controller.selecting.assignAll.settleQuality.controller.ledger =
      controller.ledger := by
    rw [Turn.ledger_settleQuality, sound.ledger_assignAll]
  have rounds := inRange.rounds
  have switches := inRange.switches
  rw [runRound_eq, Turn.log_report, ← Turn.log_settleQuality] at records
  rw [runRound_eq] at totals ⊢
  generalize controller.selecting.assignAll.settleQuality = settled at ledger records totals ⊢
  rw [← ledger] at counts rounds switches
  rw [← rounds] at round switches
  exact Turn.reportInWords?_eq counts records round switches totals

/-- The next round does in words what it does with numbers of any size, up to its report. -/
theorem runRoundInWords?_eq_reportInWords? (sound : controller.Sound)
    (round : controller.round + 1 ≤ Binary64.greatestWord) :
    controller.runRoundInWords? =
      controller.selecting.assignAll.settleQuality.reportInWords? := by
  have begun : controller.beginRoundInWords? = some controller.beginRound := by
    simp only [beginRoundInWords?, Word.fit?_eq_some round, Option.bind_eq_bind,
      Option.bind_some, Option.pure_def]
    rfl
  have collected := inRange.collectInWords?_eq
  rw [settled] at collected
  have assigned : controller.selecting.assignAllInWords? = some controller.selecting.assignAll :=
    (inRange.selects sound).assignUpToInWords?_eq _
  simp only [runRoundInWords?, begun, collected, inRange.detectFaultsInWords?_eq sound,
    inRange.applyHealthInWords?_eq, inRange.enforceCapInWords?_eq sound, inRange.adaptInWords?_eq,
    assigned, inRange.settleQualityInWords?_eq sound round, Option.bind_eq_bind,
    Option.bind_some]

/-- If the sums over workers are words afterwards, so is all that the round computes. -/
theorem runRoundInWords?_eq (sound : controller.Sound)
    (counts : controller.ledger.Counts results drops assigned)
    (records : FewRecords results drops controller.runRound.2.log)
    (round : controller.round + 1 ≤ Binary64.greatestWord)
    (totals : controller.runRound.1.ledger.TotalsWithin Binary64.greatestWord) :
    controller.runRoundInWords? = some controller.runRound := by
  rw [inRange.runRoundInWords?_eq_reportInWords? sound round,
    inRange.reportInWords?_eq sound counts records round totals]

/-- A round that does not give up leaves the sums over workers words. -/
theorem totalsWithin_of_runRoundInWords? (sound : controller.Sound)
    (round : controller.round + 1 ≤ Binary64.greatestWord) {ran : Controller × RoundReport}
    (runs : controller.runRoundInWords? = some ran) :
    controller.runRound.1.ledger.TotalsWithin Binary64.greatestWord := by
  rw [inRange.runRoundInWords?_eq_reportInWords? sound round] at runs
  exact Turn.totalsWithin_of_reportInWords? runs

end InRange

end Controller

end PoolArbiter
