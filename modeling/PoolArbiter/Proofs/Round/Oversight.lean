import PoolArbiter.Proofs.Round.Pool

/-!
# The gate and the governor in a round

`Turn.oversight` collects the trust gate, the governor and what they add to the log.
Only verdicts, completions and health reports change the gate, and only the step that
enforces the cap changes the governor; moving items changes neither. Between two rounds
the reset changes the gate and a new budget the governor.
-/

namespace PoolArbiter

namespace TrustGate

/-- Counting violations excludes no one. -/
theorem excluded_countViolations (gate : TrustGate) (count : Nat) :
    (gate.countViolations count).1.excluded = gate.excluded := by
  induction count generalizing gate with
  | zero => rfl
  | succ count inductionHypothesis =>
      have counted := inductionHypothesis gate.countViolation
      exact counted

end TrustGate

/-- The trust gate, the governor, and what they have logged. -/
structure Oversight where
  gate : TrustGate
  governor : Governor
  excluded : List WorkerId
  forcedIdle : List WorkerId
  lockdownRaised : Bool

/-- The oversight of a controller with a log of the round. -/
def Oversight.of (controller : Controller) (log : RoundLog) : Oversight where
  gate := controller.gate
  governor := controller.governor
  excluded := log.excluded
  forcedIdle := log.forcedIdle
  lockdownRaised := log.lockdownRaised

namespace Turn

/-- The oversight of a turn. -/
def oversight (turn : Turn) : Oversight :=
  .of turn.controller turn.log

section Moves

variable (turn : Turn)

@[simp]
theorem oversight_publish (result : WorkResult) :
    (turn.publish result).oversight = turn.oversight :=
  rfl

@[simp]
theorem oversight_requeueOrDrop (item : WorkItem) :
    (turn.requeueOrDrop item).oversight = turn.oversight := by
  unfold requeueOrDrop
  dsimp only
  split <;> rfl

@[simp]
theorem oversight_reclaimFault (worker : WorkerId) :
    (turn.reclaimFault worker).oversight = turn.oversight := by
  unfold reclaimFault
  dsimp only
  split
  · rfl
  · split
    · rfl
    · exact oversight_requeueOrDrop _ _

@[simp]
theorem oversight_detectFaults : turn.detectFaults.oversight = turn.oversight :=
  view_foldl oversight oversight_reclaimFault _ _

@[simp]
theorem oversight_preempt (worker : WorkerId) :
    (turn.preempt worker).oversight = turn.oversight := by
  unfold preempt
  dsimp only
  split
  · rfl
  · split
    · rfl
    · exact oversight_requeueOrDrop _ _

@[simp]
theorem oversight_adapt : turn.adapt.oversight = turn.oversight := by
  unfold adapt
  dsimp only
  split <;> rfl

/-- Assignments leave the oversight alone. -/
theorem Assigns.oversight_eq {turn final : Turn} (assigns : Assigns turn final) :
    final.oversight = turn.oversight := by
  induction assigns with
  | done => rfl
  | handOver _ _ inductionHypothesis =>
      rw [inductionHypothesis]
      rfl

end Moves

section Decisions

variable (turn : Turn) (snapshot : Snapshot)

/-- Rejected hits are violations. -/
theorem oversight_collect :
    (turn.collect snapshot).oversight =
      let untrusted := (turn.controller.collector.poll snapshot.completions
        turn.controller.pool turn.controller.round).yield.untrusted
      { turn.oversight with
        gate := (turn.controller.gate.countViolations untrusted.length).1
        lockdownRaised := turn.log.lockdownRaised ||
          (turn.controller.gate.countViolations untrusted.length).2 } := by
  unfold collect
  dsimp only
  rw [view_foldl oversight oversight_publish]
  rfl

/-- The health reports decide about the gate and about who is excluded. -/
theorem oversight_applyHealth :
    (turn.applyHealth snapshot).oversight =
      let applied := turn.controller.gate.applyReports turn.controller.pool snapshot.health
      { turn.oversight with
        gate := applied.gate
        excluded := applied.change.excluded
        lockdownRaised := turn.log.lockdownRaised || applied.change.raised } := by
  unfold applyHealth
  dsimp only
  rw [view_foldl oversight oversight_requeueOrDrop]
  rfl

/-- The governor takes the temperature and lists the workers above the cap. -/
theorem oversight_enforceCap :
    (turn.enforceCap snapshot).oversight =
      let governor :=
        turn.controller.governor.recompute turn.controller.pool.activeCount snapshot.sensor
      { turn.oversight with
        governor := governor
        forcedIdle := governor.excess turn.controller.pool } := by
  have idled := view_foldl oversight oversight_preempt
    ((turn.controller.governor.recompute turn.controller.pool.activeCount
      snapshot.sensor).excess turn.controller.pool)
    { turn with
      controller :=
        { turn.controller with
          governor := turn.controller.governor.recompute turn.controller.pool.activeCount
            snapshot.sensor } }
  simp only [oversight, Oversight.of, Oversight.mk.injEq] at idled ⊢
  obtain ⟨gate, governor, excluded, _, raised⟩ := idled
  exact ⟨gate, governor, excluded, rfl, raised⟩

theorem oversight_report :
    Oversight.of turn.settleQuality.report.1 turn.settleQuality.report.2.log =
      turn.oversight :=
  rfl

end Decisions

end Turn

namespace Controller

variable {controller : Controller}

/-- Up to the health reports a round counts violations and does no more to the gate. -/
theorem oversight_inspected (controller : Controller) :
    controller.inspected.oversight.gate.excluded = controller.gate.excluded ∧
      controller.inspected.oversight.governor = controller.governor := by
  rw [inspected, Turn.oversight_detectFaults, collected, Turn.oversight_collect]
  dsimp only
  rw [TrustGate.excluded_countViolations]
  exact ⟨TrustGate.excluded_countViolations _ _, rfl⟩

/-- Up to the search for late workers no one is excluded. -/
theorem excluded_inspected (controller : Controller) :
    controller.inspected.controller.gate.excluded = controller.gate.excluded := by
  have inspected := (oversight_inspected controller).1
  simpa only [Turn.oversight, Oversight.of] using inspected

/-- Up to the exclusions the governor stays as it is. -/
theorem governor_vetted (controller : Controller) :
    controller.vetted.controller.governor = controller.governor := by
  have health := congrArg Oversight.governor (Turn.oversight_applyHealth controller.inspected
    (Snapshot.ofReports controller.feed))
  simp only [(oversight_inspected controller).2] at health
  rw [vetted]
  simpa only [Turn.oversight, Oversight.of] using health

/-- After the cap the round changes neither the gate nor the governor. -/
theorem Sound.oversight_runRound (sound : controller.Sound) :
    Oversight.of controller.runRound.1 controller.runRound.2.log =
      controller.capped.oversight := by
  rw [runRound_eq, Turn.oversight_report,
    (Turn.assignAll_assigns sound.selecting.sound).oversight_eq, selecting_eq,
    Turn.oversight_adapt]

/-- After the exclusions a round leaves the gate alone. -/
theorem Sound.gate_runRound (sound : controller.Sound) :
    controller.runRound.1.gate = controller.vetted.controller.gate := by
  have after := congrArg Oversight.gate sound.oversight_runRound
  rw [capped, Turn.oversight_enforceCap] at after
  simpa only [Oversight.of, Turn.oversight] using after

/-- The governor after a round has seen the workers at work and the sensor. -/
theorem Sound.governor_runRound (sound : controller.Sound) :
    controller.runRound.1.governor =
      controller.governor.recompute controller.vetted.controller.pool.activeCount
        (Snapshot.ofReports controller.feed).sensor := by
  have after := congrArg Oversight.governor sound.oversight_runRound
  rw [capped, Turn.oversight_enforceCap, governor_vetted] at after
  simpa only [Oversight.of] using after

/-- After the cap a round leaves the governor alone. -/
theorem Sound.governor_capped (sound : controller.Sound) :
    controller.runRound.1.governor = controller.capped.controller.governor := by
  have after := congrArg Oversight.governor sound.oversight_runRound
  simpa only [Oversight.of, Turn.oversight] using after

/-- The adaptation leaves the governor alone. -/
theorem governor_selecting (controller : Controller) :
    controller.selecting.controller.governor = controller.capped.controller.governor := by
  have adapted := congrArg Oversight.governor (Turn.oversight_adapt controller.capped)
  rw [selecting_eq]
  simpa only [Oversight.of, Turn.oversight] using adapted

/-- A round reports the workers that the health reports excluded. -/
theorem Sound.excluded_runRound (sound : controller.Sound) :
    controller.runRound.2.log.excluded =
      (controller.inspected.controller.gate.applyReports controller.inspected.controller.pool
        (Snapshot.ofReports controller.feed).health).change.excluded := by
  have after := congrArg Oversight.excluded sound.oversight_runRound
  rw [capped, Turn.oversight_enforceCap, Controller.vetted, Turn.oversight_applyHealth] at after
  simpa only [Oversight.of] using after

/-- The workers that a round reports as idled are those above the cap. -/
theorem Sound.forcedIdle_runRound (sound : controller.Sound) :
    controller.runRound.2.log.forcedIdle = controller.capped.log.forcedIdle := by
  have after := congrArg Oversight.forcedIdle sound.oversight_runRound
  simpa only [Oversight.of, Turn.oversight] using after

/-- Forced to idle are the workers over the cap. -/
theorem Sound.forcedIdle_eq_excess (sound : controller.Sound) :
    controller.runRound.2.log.forcedIdle =
      controller.runRound.1.governor.excess controller.vetted.controller.pool := by
  have after := congrArg Oversight.forcedIdle sound.oversight_runRound
  rw [capped, Turn.oversight_enforceCap, governor_vetted] at after
  rw [sound.governor_runRound]
  simpa only [Oversight.of] using after

/-- Between two rounds only a new budget changes the governor, and only the reset
changes the gate. -/
theorem oversight_perform (controller : Controller) (operation : Operation) (log : RoundLog) :
    Oversight.of (controller.perform operation).1 log =
      match operation with
      | .round => .of controller.runRound.1 log
      | .setBudget watts =>
          { Oversight.of controller log with governor := controller.governor.withBudget watts }
      | .resetSecurity =>
          { Oversight.of controller log with gate := controller.resetSecurity.gate }
      | _ => .of controller log := by
  cases operation with
  | submit payload tier =>
      unfold perform submit
      dsimp only
      split
      · rfl
      · split <;> rfl
  | withdraw work =>
      unfold perform withdraw
      dsimp only
      split <;> rfl
  | drain =>
      obtain ⟨_, _, _, same⟩ := controller.drainWorkers_eq
      have kept := congrArg (Oversight.of · log) same
      exact kept
  | _ => rfl

end Controller

end PoolArbiter
