import PoolArbiter.Proofs.Lifetime
import PoolArbiter.Proofs.Selection.Assigning

/-!
# What a round leaves alone

`Turn.frame` collects what the phases of a round read but do not change, and the
parts of the log that they leave empty. Only adaptation moves its own window, and
only assigning and the end of the round move the starvation guard.
-/

namespace PoolArbiter

/-- The parts of a controller that most phases leave as they are. -/
structure Controller.Frame where
  config : Configuration
  round : Round
  nextId : WorkId
  feed : List Report
  modes : Modes
  adaptation : Adaptation
  guard : StarvationGuard

/-- The frame of a controller. -/
def Controller.frame (controller : Controller) : Controller.Frame where
  config := controller.config
  round := controller.round
  nextId := controller.nextId
  feed := controller.feed
  modes := controller.modes
  adaptation := controller.adaptation
  guard := controller.queues.guard

namespace Turn

/-- The parts of a turn that most phases leave as they are. -/
structure Frame where
  controller : Controller.Frame
  assignments : List Assignment
  policySwitch : Option PolicySwitch

/-- The frame of a turn. -/
def frame (turn : Turn) : Frame where
  controller := turn.controller.frame
  assignments := turn.log.assignments
  policySwitch := turn.log.policySwitch

variable (turn : Turn) (snapshot : Snapshot)

/-- What no step changes is the same after all of them. -/
theorem view_foldl {α β : Type} (view : Turn → β) {step : Turn → α → Turn}
    (same : ∀ turn value, view (step turn value) = view turn) (values : List α) (turn : Turn) :
    view (values.foldl step turn) = view turn := by
  induction values generalizing turn with
  | nil => rfl
  | cons value rest inductionHypothesis =>
      rw [List.foldl_cons, inductionHypothesis, same]

@[simp]
theorem frame_publish (result : WorkResult) : (turn.publish result).frame = turn.frame :=
  rfl

@[simp]
theorem frame_requeueOrDrop (item : WorkItem) : (turn.requeueOrDrop item).frame = turn.frame := by
  unfold requeueOrDrop
  dsimp only
  split
  next accepted =>
    rw [AdmissionQueues.requeue?_eq_some accepted]
    rfl
  next => rfl

@[simp]
theorem frame_settleVerdicts : (turn.settleVerdicts snapshot).frame = turn.frame :=
  rfl

@[simp]
theorem frame_collect : (turn.collect snapshot).frame = turn.frame :=
  view_foldl frame frame_publish _ _

@[simp]
theorem frame_reclaimFault (worker : WorkerId) : (turn.reclaimFault worker).frame = turn.frame := by
  unfold reclaimFault
  dsimp only
  split
  · rfl
  · split
    · rfl
    · exact frame_requeueOrDrop _ _

@[simp]
theorem frame_detectFaults : turn.detectFaults.frame = turn.frame :=
  view_foldl frame frame_reclaimFault _ _

@[simp]
theorem frame_applyHealth : (turn.applyHealth snapshot).frame = turn.frame :=
  view_foldl frame frame_requeueOrDrop _ _

@[simp]
theorem frame_preempt (worker : WorkerId) : (turn.preempt worker).frame = turn.frame := by
  unfold preempt
  dsimp only
  split
  · rfl
  · split
    · rfl
    · exact frame_requeueOrDrop _ _

@[simp]
theorem frame_enforceCap : (turn.enforceCap snapshot).frame = turn.frame :=
  view_foldl frame frame_preempt _ _

/-- Adaptation moves its own window and may replace the policy. -/
theorem frame_adapt :
    turn.adapt.frame =
      { controller :=
          { turn.controller.frame with adaptation := turn.adapt.controller.adaptation }
        assignments := turn.log.assignments
        policySwitch := turn.adapt.log.policySwitch } := by
  unfold adapt
  dsimp only
  split <;> rfl

/-- Assigning moves the guard. -/
theorem Assigns.frame_eq {turn final : Turn} (assigns : Assigns turn final) :
    final.controller.frame =
      { turn.controller.frame with guard := final.controller.queues.guard } := by
  induction assigns with
  | done => rfl
  | handOver _ _ inductionHypothesis =>
      rw [inductionHypothesis]
      rfl

/-- Assigning adds to the log of a turn only its assignments. -/
theorem Assigns.log_eq {turn final : Turn} (assigns : Assigns turn final) :
    final.log = { turn.log with assignments := final.log.assignments } := by
  induction assigns with
  | done => rfl
  | handOver _ _ inductionHypothesis =>
      rw [inductionHypothesis]
      rfl

/-- The end of a round reports the log. -/
theorem log_report : turn.settleQuality.report.2.log = turn.log :=
  rfl

/-- The end of a round leaves the workers alone. -/
theorem pool_report : turn.settleQuality.report.1.pool = turn.controller.pool :=
  rfl

/-- The end of a round changes nothing of the queues but the guard. -/
theorem queues_report :
    turn.settleQuality.report.1.queues =
      { turn.controller.queues with guard := turn.settleQuality.report.1.queues.guard } :=
  rfl

/-- The end of a round leaves the policy alone. -/
theorem policy_report : turn.settleQuality.report.1.policy = turn.controller.policy :=
  rfl

/-- The end of a round leaves the counts of faults alone. -/
theorem faultRetries_report :
    turn.settleQuality.report.1.faultRetries = turn.controller.faultRetries :=
  rfl

/-- The end of a round moves the guard. -/
theorem frame_report :
    turn.settleQuality.report.1.frame =
      { turn.controller.frame with guard := turn.settleQuality.report.1.queues.guard } :=
  rfl

end Turn

namespace Controller

/-- The turn after the completions of a round. -/
def collected (controller : Controller) : Turn :=
  let snapshot := Snapshot.ofReports controller.feed
  (controller.beginRound.settleVerdicts snapshot).collect snapshot

/-- The turn after the faults of a round. -/
def inspected (controller : Controller) : Turn :=
  controller.collected.detectFaults

/-- The turn after the health reports of a round. -/
def vetted (controller : Controller) : Turn :=
  controller.inspected.applyHealth (Snapshot.ofReports controller.feed)

/-- The turn after the cap of a round is enforced. -/
def capped (controller : Controller) : Turn :=
  controller.vetted.enforceCap (Snapshot.ofReports controller.feed)

/-- The turn before items are assigned. -/
def selecting (controller : Controller) : Turn :=
  (controller.vetted.enforceCap (Snapshot.ofReports controller.feed)).adapt

/-- Before the assignments comes the adaptation. -/
theorem selecting_eq (controller : Controller) : controller.selecting = controller.capped.adapt :=
  rfl

/-- A round ends with the assignments, the quality level and the report. -/
theorem runRound_eq (controller : Controller) :
    controller.runRound = controller.selecting.assignAll.settleQuality.report :=
  rfl

/-- Up to the collection the frame stays as it is. -/
theorem frame_collected (controller : Controller) :
    controller.collected.frame = controller.beginRound.frame := by
  rw [collected, Turn.frame_collect, Turn.frame_settleVerdicts]

/-- Up to the exclusions the frame stays as it is. -/
theorem frame_vetted (controller : Controller) :
    controller.vetted.frame = controller.beginRound.frame := by
  rw [vetted, Turn.frame_applyHealth, inspected, Turn.frame_detectFaults, frame_collected]

/-- Up to the cap the frame stays as it is. -/
theorem frame_capped (controller : Controller) :
    controller.capped.frame = controller.beginRound.frame := by
  rw [capped, Turn.frame_enforceCap, frame_vetted]

/-- Up to the cap nothing is adapted. -/
theorem adaptation_capped (controller : Controller) :
    controller.capped.controller.adaptation = controller.adaptation :=
  congrArg (·.controller.adaptation) (frame_capped controller)

/-- Before the assignments only the adaptation has changed the frame. -/
theorem frame_selecting (controller : Controller) :
    controller.selecting.frame =
      { controller :=
          { controller.frame with
            round := controller.round + 1
            feed := []
            adaptation := controller.selecting.controller.adaptation }
        assignments := []
        policySwitch := controller.selecting.log.policySwitch } := by
  have sameController := congrArg Turn.Frame.controller (frame_capped controller)
  have sameAssignments := congrArg Turn.Frame.assignments (frame_capped controller)
  simp only [Turn.frame] at sameController sameAssignments
  rw [selecting_eq, Turn.frame_adapt, sameController, sameAssignments]
  rfl

/-- Before the assignments none is logged. -/
theorem assignments_selecting (controller : Controller) :
    controller.selecting.log.assignments = [] := by
  have none := congrArg Turn.Frame.assignments (frame_selecting controller)
  exact none

/-- Up to the collection the configuration stays as it is. -/
theorem config_collected (controller : Controller) :
    controller.collected.controller.config = controller.config := by
  have same := congrArg (·.controller.config) (frame_collected controller)
  exact same

/-- At the collection the round is counted. -/
theorem round_collected (controller : Controller) :
    controller.collected.controller.round = controller.round + 1 := by
  have same := congrArg (·.controller.round) (frame_collected controller)
  exact same

/-- At the assignments the round is counted once. -/
theorem round_selecting (controller : Controller) :
    controller.selecting.controller.round = controller.round + 1 := by
  have same := congrArg (·.controller.round) (frame_selecting controller)
  exact same

/-- Draining changes the slots, the verdicts and the counts of faults. -/
theorem drainWorkers_eq (controller : Controller) : ∃ pool verdicts retries,
    (controller.pool.activeDescending.reverse.foldl drainWorker (controller, [])).1 =
      { controller with
        pool := pool
        collector := { controller.collector with verdicts := verdicts }
        faultRetries := retries } := by
  refine List.foldlRecOn (motive := fun progress : Controller × List DropRecord =>
    ∃ pool verdicts retries, progress.1 =
      { controller with
        pool := pool
        collector := { controller.collector with verdicts := verdicts }
        faultRetries := retries })
    controller.pool.activeDescending.reverse drainWorker ⟨_, _, _, rfl⟩ ?_
  rintro ⟨drained, drops⟩ ⟨pool, verdicts, retries, same⟩ worker _
  dsimp only at same
  subst same
  unfold drainWorker
  dsimp only
  split <;> exact ⟨_, _, _, rfl⟩

/-- Operations between two rounds touch no more of the frame than the next number,
the feed and the switches. -/
theorem frame_perform (controller : Controller) (operation : Operation)
    (between : operation ≠ .round) :
    (controller.perform operation).1.frame =
      { controller.frame with
        nextId := (controller.perform operation).1.nextId
        feed := (controller.perform operation).1.feed
        modes := (controller.perform operation).1.modes } := by
  cases operation with
  | submit payload tier =>
      unfold perform submit
      dsimp only
      split
      · rfl
      · split
        next accepted =>
          rw [AdmissionQueues.enqueue_eq_ok accepted]
          rfl
        next => rfl
  | receive report => rfl
  | setModes modes => rfl
  | setBudget watts => rfl
  | round => exact absurd rfl between
  | withdraw work =>
      unfold perform withdraw
      dsimp only
      split
      next => rfl
      next withdrawn =>
        obtain ⟨_, _, _, _, _, rfl⟩ := AdmissionQueues.withdraw?_eq_some withdrawn
        rfl
  | drain =>
      apply List.foldlRecOn (motive := fun progress : Controller × List DropRecord =>
        progress.1.frame = { controller.frame with
          nextId := progress.1.nextId, feed := progress.1.feed, modes := progress.1.modes })
      · rfl
      · intro progress same worker _
        unfold drainWorker
        dsimp only
        split <;> exact same
  | resetSecurity => rfl

/-- Between rounds no operation changes the configuration. -/
theorem config_perform (controller : Controller) (operation : Operation)
    (between : operation ≠ .round) :
    (controller.perform operation).1.config = controller.config := by
  have same := congrArg Frame.config (frame_perform controller operation between)
  exact same

/-- Between rounds no operation counts a round. -/
theorem round_perform (controller : Controller) (operation : Operation)
    (between : operation ≠ .round) :
    (controller.perform operation).1.round = controller.round := by
  have same := congrArg Frame.round (frame_perform controller operation between)
  exact same

end Controller

end PoolArbiter
