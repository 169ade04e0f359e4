import PoolArbiter.Proofs.Collection.Integrity
import PoolArbiter.Proofs.Collection.RecentHits
import PoolArbiter.Proofs.Search.Partition
import PoolArbiter.Proofs.Trust.Counting
import PoolArbiter.Proofs.Trust.Exclusion

/-!
# The count of violations

A round has four kinds of violations: failed verdicts that come after their hit was
published, hits that are published as exhausted, health reports that deviate too much,
and trusted workers that were tampered with. `Controller.violationsInRound` counts them
from what the round is given and what it reports. The gate counts the same, in three
phases of the round, and raises the lockdown when the count reaches the threshold.
-/

namespace PoolArbiter

/-- The queues themselves know of no lockdown. -/
theorem AdmissionQueues.enqueue_ne_lockdown (queues : AdmissionQueues) (item : WorkItem) :
    queues.enqueue item ≠ .error .lockdown := by
  unfold enqueue
  split
  · simp
  · split <;> simp

namespace Controller

variable {controller : Controller} {history : History}

/-- The failed verdicts of the next round that are charged to hits published before. -/
def lateFailures (controller : Controller) : Nat :=
  (Snapshot.ofReports controller.feed).verdicts.entries.countP
    (controller.collector.charges controller.pool.worksInFlight)

/-- The hits that are reported to the next round and published as exhausted. -/
def downgrades (controller : Controller) : Nat :=
  controller.pool.slots.countP fun slot =>
    (slot.completion? controller.completions).any fun completion =>
      completion.outcome.isFound && controller.runRound.2.log.results.any fun result =>
        result.work = completion.work && !result.outcome.isFound

/-- The health reports of the next round on workers of the pool that deviate by more than
the threshold. -/
def deviations (controller : Controller) : Nat :=
  (Snapshot.ofReports controller.feed).health.countP
    (TrustGate.isDeviation controller.gate.deviationThreshold controller.pool)

/-- The trusted workers that the next round finds tampered with. -/
def tamperings (controller : Controller) : Nat :=
  controller.pool.slots.countP
    (TrustGate.isTampering (Snapshot.ofReports controller.feed).health)

/-- The violations of the next round. -/
def violationsInRound (controller : Controller) : Nat :=
  controller.lateFailures + controller.downgrades +
    (controller.deviations + controller.tamperings)

section Phases

/-- A gate has counted the violations of a turn so far. -/
def CountedBy (gate : TrustGate) (count : Nat) (oversight : Oversight) : Prop :=
  gate.Counts oversight.gate count oversight.lockdownRaised

/-- Settling the verdicts counts the late failures. -/
theorem counts_settled (exact : controller.gate.Exact) :
    CountedBy controller.gate controller.lateFailures controller.settled.oversight := by
  have late : (controller.collector.recordVerdicts (Snapshot.ofReports controller.feed).verdicts
      controller.pool.promote).2.length = controller.lateFailures := by
    rw [Collector.length_recordVerdicts, WorkerPool.worksInFlight_promote, lateFailures]
  rw [CountedBy, ← late]
  exact exact.counts_countViolations _

/-- As many results are downgraded as workers have theirs rejected. -/
theorem Mindful.downgrades_eq (mindful : controller.Mindful history) :
    controller.downgrades =
      controller.pool.slots.countP
        (·.isRejected controller.completions controller.pendingVerdict?) := by
  refine List.countP_congr fun slot present => ?_
  rw [← mindful.rejects_eq present]
  cases counts : slot.completion? controller.completions with
  | none => simp [History.rejects, counts]
  | some completion =>
      obtain ⟨item, _, holds, named, _⟩ :=
        (mindful.ledgered.sound.pool.slot present).holds_of_completion? counts
      have published := mindful.gatesHits.published slot present item completion holds counts
      rw [named] at published
      have rejected : history.rejects controller.completions slot =
          (completion.outcome.isFound && history.rejects controller.completions slot) := by
        unfold History.rejects
        rw [counts, Option.any_some, ← Bool.and_assoc, Bool.and_self]
      rw [Option.any_some, ← List.any_filter, published, rejected]
      cases completion.outcome <;> cases history.rejects controller.completions slot <;>
        simp [WorkItem.result, Outcome.isFound]

/-- The completions count one violation for each hit that is published as exhausted. -/
theorem Mindful.counts_collected (mindful : controller.Mindful history)
    (exact : controller.gate.Exact) :
    CountedBy controller.gate (controller.lateFailures + controller.downgrades)
      controller.collected.oversight := by
  have settled := counts_settled exact
  rw [CountedBy, mindful.ledgered.sound.oversight_collected mindful.ledgered.nodup_works,
    mindful.downgrades_eq]
  exact settled.trans exact (settled.exact.counts_countViolations _)

/-- Up to the search for late workers the late failures and the downgrades are counted. -/
theorem Mindful.counts_inspected (mindful : controller.Mindful history)
    (exact : controller.gate.Exact) :
    controller.gate.Counts controller.inspected.controller.gate
      (controller.lateFailures + controller.downgrades)
      controller.inspected.log.lockdownRaised := by
  have collected := mindful.counts_collected exact
  rw [← Turn.oversight_detectFaults, ← Controller.inspected] at collected
  simpa only [CountedBy, Turn.oversight, Oversight.of] using collected

/-- Up to the search for late workers the pool keeps its size. -/
theorem size_inspected (controller : Controller) :
    controller.inspected.controller.pool.size = controller.pool.size := by
  have layout := (controller.frees_collected.trans controller.frees_inspected).layout
  have size := congrArg WorkerPool.Layout.workers layout
  simp only [WorkerPool.layout] at size
  rw [size, WorkerPool.size_promote]

/-- The health reports count the deviations and the workers that were tampered with. -/
theorem Mindful.counts_vetted (mindful : controller.Mindful history)
    (exact : controller.gate.Exact) :
    CountedBy controller.gate controller.violationsInRound controller.vetted.oversight := by
  have sound := mindful.ledgered.sound
  have inspected := mindful.counts_inspected exact
  have tampered := TrustGate.countP_isTampering_congr sound.inspected.sound sound.pool
    (trust_inspected controller) (Snapshot.ofReports controller.feed).health
  have deviating : TrustGate.isDeviation controller.inspected.controller.gate.deviationThreshold
      controller.inspected.controller.pool =
        TrustGate.isDeviation controller.gate.deviationThreshold controller.pool := by
    funext report
    rw [TrustGate.isDeviation, inspected.deviationThreshold, size_inspected, TrustGate.isDeviation]
  have reports := TrustGate.counts_applyReports sound.inspected.sound inspected.exact
    (Snapshot.ofReports controller.feed).health
  rw [deviating, tampered] at reports
  rw [CountedBy, Controller.vetted, Turn.oversight_applyHealth]
  exact inspected.trans exact reports

/-- A round counts its violations, and it reports whether they raised the lockdown. -/
theorem Mindful.counts_runRound (mindful : controller.Mindful history)
    (exact : controller.gate.Exact) :
    controller.gate.Counts controller.runRound.1.gate controller.violationsInRound
      controller.runRound.2.log.lockdownRaised := by
  have vetted := mindful.counts_vetted exact
  have same := mindful.ledgered.sound.oversight_runRound
  rw [capped, Turn.oversight_enforceCap] at same
  have gate := congrArg Oversight.gate same
  have raised := congrArg Oversight.lockdownRaised same
  simp only [Oversight.of] at gate raised
  rw [gate, raised]
  exact vetted

end Phases

section Between

/-- Between two rounds only the reset changes the gate. -/
theorem gate_perform (controller : Controller) (operation : Operation)
    (between : operation ≠ .round) (kept : operation ≠ .resetSecurity) :
    (controller.perform operation).1.gate = controller.gate := by
  have same := congrArg Oversight.gate (oversight_perform controller operation {})
  cases operation with
  | round => exact absurd rfl between
  | resetSecurity => exact absurd rfl kept
  | _ => exact same

/-- The reset leaves no violations. -/
theorem exact_resetSecurity (exact : controller.gate.Exact) :
    controller.resetSecurity.gate.Exact where
  positive := exact.positive
  bounded := Nat.zero_le _
  locked := by
    have positive := exact.positive
    have unlocked : controller.resetSecurity.gate.lockdown = false := rfl
    have none : controller.resetSecurity.gate.violations = 0 := rfl
    have threshold : controller.resetSecurity.gate.lockdownThreshold =
        controller.gate.lockdownThreshold := rfl
    rw [unlocked, none, threshold]
    simp only [Bool.false_eq_true, false_iff]
    omega

/-- A submission is refused for the lockdown just if the lockdown is up. -/
theorem refuses_submit (controller : Controller) (payload : Payload) (tier : Tier) :
    (controller.submit payload tier).2 = .error .lockdown ↔ controller.gate.lockdown = true := by
  unfold submit
  dsimp only
  split
  next up => simp [up]
  next down =>
    split
    next => simp [down]
    next refusal refused =>
      have other : refusal ≠ .lockdown := by
        rintro rfl
        exact AdmissionQueues.enqueue_ne_lockdown _ _ refused
      simp [down, other]

end Between

/-- The controller and the violations since the last reset, after one more operation. -/
def tally (state : Controller × Nat) (operation : Operation) : Controller × Nat where
  fst := (state.1.perform operation).1
  snd :=
    match operation with
    | .round => state.2 + state.1.violationsInRound
    | .resetSecurity => 0
    | _ => state.2

/-- The gate has counted some violations, with the thresholds that are configured. -/
structure Tallies (settings : SecuritySettings) (count : Nat) (controller : Controller) :
    Prop where
  exact : controller.gate.Exact
  lockdownThreshold : controller.gate.lockdownThreshold = settings.lockdownThreshold
  deviationThreshold : controller.gate.deviationThreshold = settings.deviationThreshold
  violations : controller.gate.violations = min TrustGate.greatestCount count

variable {settings : SecuritySettings} {count : Nat}

/-- A round adds its violations to the tally. -/
theorem Tallies.runRound (tallies : controller.Tallies settings count)
    (mindful : controller.Mindful history) :
    controller.runRound.1.Tallies settings (count + controller.violationsInRound) := by
  have counts := mindful.counts_runRound tallies.exact
  refine ⟨counts.exact, counts.lockdownThreshold.trans tallies.lockdownThreshold,
    counts.deviationThreshold.trans tallies.deviationThreshold, ?_⟩
  rw [counts.violations, tallies.violations]
  omega

/-- An operation tallies its violations. -/
theorem Tallies.perform (tallies : controller.Tallies settings count)
    (mindful : controller.Mindful history) (operation : Operation) :
    (controller.perform operation).1.Tallies settings (tally (controller, count) operation).2 := by
  by_cases round : operation = .round
  · subst round
    exact tallies.runRound mindful
  · by_cases reset : operation = .resetSecurity
    · subst reset
      exact ⟨exact_resetSecurity tallies.exact, tallies.lockdownThreshold,
        tallies.deviationThreshold, rfl⟩
    · have same := gate_perform controller operation round reset
      have unchanged : (tally (controller, count) operation).2 = count := by
        cases operation with
        | round => exact absurd rfl round
        | resetSecurity => exact absurd rfl reset
        | _ => rfl
      rw [unchanged]
      refine ⟨?_, ?_, ?_, ?_⟩ <;> rw [same]
      · exact tallies.exact
      · exact tallies.lockdownThreshold
      · exact tallies.deviationThreshold
      · exact tallies.violations

end Controller

/-- The violations of a history since the last reset of the security state. -/
def History.violations (history : History) (config : Configuration) : Nat :=
  ((history.map (·.operation)).foldl Controller.tally (Controller.start config, 0)).2

/-- The gate counts the violations of its history, and everything that is made of the
count agrees with it. -/
structure Controller.CountsViolations (config : Configuration) (history : History)
    (controller : Controller) : Prop where
  violations : controller.gate.violations =
    min TrustGate.greatestCount (history.violations config)
  /-- The deviations are counted against the threshold that is configured. -/
  threshold : controller.gate.deviationThreshold = config.security.deviationThreshold
  /-- Late verdicts are charged to hits that were published. -/
  published : controller.collector.recentHits.items.Sublist (WorkResult.hits history.results)
  locked : controller.gate.lockdown = true ↔
    config.security.lockdownThreshold ≤ controller.gate.violations
  /-- A round reports the lockdown just if it raises it. -/
  raised : controller.runRound.2.log.lockdownRaised = true ↔
    controller.gate.lockdown = false ∧ controller.runRound.1.gate.lockdown = true
  refused : ∀ payload tier,
    (controller.submit payload tier).2 = .error .lockdown ↔ controller.gate.lockdown = true

namespace Lifetime

variable {config : Configuration} {history : History} {controller : Controller}

/-- Only an accepted configuration has lifetimes. -/
theorem accepted (lifetime : Lifetime config history controller) : config.IsAccepted := by
  induction lifetime with
  | start created =>
      unfold Controller.create at created
      split at created
      next checked => exact (Configuration.check_eq_ok_iff _).1 checked
      next => cases created
  | step _ _ inductionHypothesis => exact inductionHypothesis

/-- A fresh controller has counted no violation. -/
theorem tallies_start (positive : 0 < config.security.lockdownThreshold) :
    (Controller.start config).Tallies config.security 0 := by
  have threshold : (Controller.start config).gate.lockdownThreshold =
      config.security.lockdownThreshold :=
    Nat.max_eq_right positive
  have none : (Controller.start config).gate.violations = 0 := rfl
  have unlocked : (Controller.start config).gate.lockdown = false := rfl
  refine ⟨⟨by rwa [threshold], by simp [none], ?_⟩, threshold, rfl, by simp [none]⟩
  rw [unlocked, threshold, none]
  simp only [Bool.false_eq_true, false_iff]
  omega

/-- The tally goes through the controllers of the lifetime, and the gate agrees with it. -/
theorem tallies (lifetime : Lifetime config history controller) :
    (history.map (·.operation)).foldl Controller.tally (Controller.start config, 0) =
        (controller, history.violations config) ∧
      controller.Tallies config.security (history.violations config) := by
  have positive := lifetime.accepted.passes.lockdownThreshold
  induction lifetime with
  | start created =>
      rw [start_eq created]
      exact ⟨rfl, tallies_start positive⟩
  | @step history before prior operation inductionHypothesis =>
      obtain ⟨tally, tallies⟩ := inductionHypothesis
      have next : ((history ++ [before.stepOf operation]).map (·.operation)).foldl
          Controller.tally (Controller.start config, 0) =
            Controller.tally (before, history.violations config) operation := by
        rw [List.map_append, List.foldl_append, tally]
        rfl
      have count : History.violations (history ++ [before.stepOf operation]) config =
          (Controller.tally (before, history.violations config) operation).2 := by
        rw [History.violations, next]
      rw [next, count]
      exact ⟨rfl, tallies.perform prior.mindful operation⟩

/-- Throughout a lifetime the count of violations and the lockdown are exact. -/
theorem countsViolations (lifetime : Lifetime config history controller) :
    controller.CountsViolations config history := by
  have tallies := lifetime.tallies.2
  have counts := lifetime.mindful.counts_runRound tallies.exact
  refine ⟨tallies.violations, tallies.deviationThreshold, lifetime.recentHits, ?_, ?_,
    controller.refuses_submit⟩
  · rw [tallies.exact.locked, tallies.lockdownThreshold]
  · rw [counts.raised, Bool.and_eq_true, Bool.not_eq_true']

/-- Of two hits one was rejected, which is a violation, and the other published. In the next
round the verdict on the published hit fails, one worker deviates and the other one was
tampered with: the count reaches the threshold. -/
theorem countsViolations_before_lockdown :
    let config : Configuration :=
      { pool := { workers := 2 }, security := { lockdownThreshold := 4 } }
    let start := Controller.start config
    let operations : List Operation :=
      [.submit ⟨[1]⟩ .low, .submit ⟨[2]⟩ .low, .round, .receive (.verdict 1 false),
        .receive (.completion ⟨0, 1, .found [7], .ofFloat 0⟩),
        .receive (.completion ⟨1, 2, .found [8], .ofFloat 0⟩), .round,
        .receive (.verdict 2 false), .receive (.health ⟨0, false, 1000⟩),
        .receive (.health ⟨1, true, 0⟩)]
    let history := start.stepsOf operations
    let controller := start.after operations
    Lifetime config history controller ∧
      history.results.map (·.outcome) = [.exhausted, .found [8]] ∧
      history.violations config = 1 ∧
      (controller.lateFailures, controller.deviations, controller.tamperings) = (1, 1, 1) ∧
      controller.runRound.2.log.lockdownRaised = true ∧
      controller.CountsViolations config history := by
  intro config start operations history controller
  have accepted : config.IsAccepted := by
    unfold Configuration.IsAccepted
    decide +kernel
  have lifetime : Lifetime config history controller := accepted.lifetime.after operations
  refine ⟨lifetime, ?_, ?_, ?_, ?_, lifetime.countsViolations⟩ <;> decide +kernel

end Lifetime

end PoolArbiter
