import PoolArbiter.Proofs.Selection.Maximal
import PoolArbiter.Proofs.Starvation.Window
import PoolArbiter.Proofs.Trust.Violations

/-!
# The two windows run in step

The guard and the adaptation count the rounds of a window at different places of a round,
and a switch of the policy starts the guard anew besides. `Controller.Aligned` says that
nothing moves them apart: both counts are the place of the round in its window. So the
policy is switched in the last round of a window only, and the guard starts anew there with
or without a switch.
-/

namespace PoolArbiter

/-- At the end of a window a switch makes no difference: the guard starts anew anyway. -/
theorem AdmissionQueues.advance_of_closed {queues : AdmissionQueues}
    (isClosed : ¬ queues.guard.roundInWindow + 1 < queues.guard.window) (switched : Bool) :
    queues.advance switched = queues.advance false := by
  unfold advance
  dsimp only
  rw [StarvationGuard.advance_of_closed isClosed]
  cases switched <;> rfl

/-- The end of a round sets a slack and goes to the next round of the window. -/
theorem Turn.queues_report_eq_advance (turn : Turn) :
    turn.settleQuality.report.1.queues =
      (turn.controller.queues.withSlack turn.settleQuality.report.1.queues.guard.slack).advance
        turn.log.policySwitch.isSome := by
  have slackKept : ∀ (queues : AdmissionQueues) (slack : Nat) (switched : Bool),
      ((queues.withSlack slack).advance switched).guard.slack = slack := by
    intro queues slack switched
    unfold AdmissionQueues.advance StarvationGuard.advance
    dsimp only
    split <;> split <;> rfl
  unfold settleQuality report
  dsimp only
  rw [slackKept]

/-- A report bears the number of the round that it ends. -/
theorem Turn.round_report (turn : Turn) :
    turn.settleQuality.report.2.round = turn.settleQuality.report.1.round :=
  rfl

/-- Handing over items marks tiers and leaves the place in the window. -/
theorem Turn.Reaches.place {start turn : Turn} (reaches : start.Reaches turn)
    (sound : start.controller.pool.Sound) :
    turn.controller.queues.guard.window = start.controller.queues.guard.window ∧
      turn.controller.queues.guard.roundInWindow =
        start.controller.queues.guard.roundInWindow := by
  induction reaches with
  | start => exact ⟨rfl, rfl⟩
  | @assign turn next selection reaches selected accepted inductionHypothesis =>
      rw [assign?_of_selection? (reaches.sound sound) selected] at accepted
      obtain rfl := Option.some.inj accepted
      obtain ⟨_, _, ⟨tier, _, popped⟩, _⟩ := Policy.select?_eq_some selected
      obtain ⟨_, _, queues⟩ := AdmissionQueues.popFrom?_eq_some_iff.1 popped
      have marked : (turn.handOver selection).controller.queues.guard =
          turn.controller.queues.guard.markServiced tier := by
        simp only [Turn.handOver, queues]
      rw [marked]
      exact inductionHypothesis

namespace Controller

/-- The windows of the guard and of the adaptation begin and end together. -/
structure Aligned (window : Nat) (controller : Controller) : Prop where
  /-- The guard counts the rounds of the window, -/
  guard : controller.queues.guard.roundInWindow = controller.round % window
  /-- and so does the adaptation. -/
  adaptation : controller.adaptation.roundsInWindow = controller.round % window
  /-- The next round switches the policy only if the window divides its number. -/
  switches : controller.runRound.2.log.policySwitch.isSome = true →
    controller.runRound.2.round % window = 0
  /-- A switch comes in the last round of a window of the guard. -/
  whole : controller.runRound.2.log.policySwitch.isSome = true →
    controller.queues.guard.roundInWindow + 1 = controller.queues.guard.window
  /-- The queues are as if the guard had not been told of a switch. -/
  closes : controller.runRound.1.queues =
    (controller.selecting.assignAll.controller.queues.withSlack
      controller.runRound.1.queues.guard.slack).advance false
  /-- The guard has a round left, -/
  left : 1 ≤ controller.roundsLeft
  /-- also whenever it is asked for the overdue tier in the next round. -/
  leftInRound : ∀ turn, controller.selecting.Reaches turn →
    1 ≤ turn.controller.queues.guard.window - turn.controller.queues.guard.roundInWindow

variable {controller : Controller} {window : Nat}

/-- A round reports the switch that the adaptation made. -/
theorem Sound.policySwitch_runRound (sound : controller.Sound) :
    controller.runRound.2.log.policySwitch = controller.selecting.log.policySwitch := by
  have same := congrArg RoundLog.policySwitch
    (Turn.assignAll_assigns sound.selecting.sound).log_eq
  rw [runRound_eq, Turn.log_report, same]

/-- A report bears the number after the last round's. -/
theorem Sound.number_runRound (sound : controller.Sound) :
    controller.runRound.2.round = controller.round + 1 := by
  have same := Turn.round_report controller.selecting.assignAll
  rw [← runRound_eq] at same
  rw [same, sound.round_runRound]

/-- A round that switches the policy is the last one of a window. -/
theorem Sound.isClosed_of_switched (sound : controller.Sound)
    (windowed : controller.Windowed window)
    (switched : controller.runRound.2.log.policySwitch.isSome = true) :
    ¬ controller.round % window + 1 < window := by
  intro isOpen
  obtain ⟨utilization, policy, modes, _, unswitched⟩ := adaptation_selecting controller
  have unchanged := unswitched (congrArg Prod.snd (Adaptation.onRound_of_open
    (by rw [windowed.adaptation, windowed.sampled]; exact isOpen)))
  rw [sound.policySwitch_runRound, unchanged] at switched
  cases switched

/-- The queues that a round leaves have gone to the next round, and no more. -/
theorem Sound.queues_runRound_eq_advance (sound : controller.Sound)
    (windowed : controller.Windowed window) :
    controller.runRound.1.queues =
      (controller.selecting.assignAll.controller.queues.withSlack
        controller.runRound.1.queues.guard.slack).advance false := by
  have closed := Turn.queues_report_eq_advance controller.selecting.assignAll
  rw [← Turn.log_report, ← runRound_eq] at closed
  by_cases switched : controller.runRound.2.log.policySwitch.isSome = true
  · have last := sound.isClosed_of_switched windowed switched
    rw [← windowed.place, ← windowed.guard] at last
    have guard : controller.selecting.assignAll.controller.queues.guard =
        controller.queues.guard.markAll controller.assignedTiers := by
      rw [sound.serves.guard, guard_selecting]
    refine closed.trans (AdmissionQueues.advance_of_closed ?_ _)
    rw [AdmissionQueues.withSlack, guard]
    simpa [StarvationGuard.withSlack] using last
  · rw [Bool.not_eq_true] at switched
    rw [switched] at closed
    exact closed

/-- The current round is left in its window. -/
theorem Windowed.left (windowed : controller.Windowed window) (positive : 0 < window) :
    1 ≤ controller.roundsLeft := by
  rw [windowed.roundsLeft_eq]
  exact Nat.sub_pos_of_lt (Nat.mod_lt _ positive)

/-- A sound controller in step with its windows is aligned. -/
theorem Windowed.aligned_of_sound (windowed : controller.Windowed window)
    (sound : controller.Sound) (positive : 0 < window) : controller.Aligned window := by
  have left := windowed.left positive
  refine ⟨windowed.place, windowed.sampled, fun switched => ?_, fun switched => ?_, ?_, left, ?_⟩
  · rw [sound.number_runRound, succ_mod_eq _ positive,
      if_neg (sound.isClosed_of_switched windowed switched)]
  · have last := sound.isClosed_of_switched windowed switched
    have inside := Nat.mod_lt controller.round positive
    rw [windowed.place, windowed.guard]
    exact Nat.le_antisymm inside (Nat.not_lt.1 last)
  · exact sound.queues_runRound_eq_advance windowed
  · intro turn reaches
    obtain ⟨length, place⟩ := reaches.place sound.selecting.sound
    rw [length, place, guard_selecting]
    exact left

end Controller

namespace Lifetime

variable {config : Configuration} {history : History} {controller : Controller}

/-- At every point of every lifetime the guard and the adaptation stand at the same place of
the configured window. -/
theorem aligned (lifetime : Lifetime config history controller) :
    controller.Aligned config.adaptation.windowRounds := by
  have positive := lifetime.accepted.passes.windowRounds
  have windowed := lifetime.windowed
  rw [Nat.max_eq_right positive] at windowed
  exact windowed.aligned_of_sound lifetime.ledgered.sound positive

/-- Five rounds into windows of three, in which the operator asked to save power: the sixth
round switches the policy. -/
theorem aligned_before_switch :
    let config : Configuration := { pool := { workers := 1 }, adaptation := { windowRounds := 3 } }
    let start := Controller.start config
    let operations : List Operation :=
      [.round, .round, .round, .submit ⟨[1]⟩ .low, .round, .setModes ⟨true, false, false⟩, .round]
    let history := start.stepsOf operations
    let controller := start.after operations
    Lifetime config history controller ∧
      (controller.queues.guard.roundInWindow, controller.adaptation.roundsInWindow,
        controller.round) = (2, 2, 5) ∧
      controller.runRound.2.log.policySwitch.isSome = true ∧
      controller.runRound.2.round = 6 ∧
      controller.Aligned 3 := by
  intro config start operations history controller
  have accepted : config.IsAccepted := by
    unfold Configuration.IsAccepted
    decide +kernel
  have lifetime : Lifetime config history controller := accepted.lifetime.after operations
  refine ⟨lifetime, ?_, ?_, ?_, lifetime.aligned⟩ <;> decide +kernel

end Lifetime

end PoolArbiter
