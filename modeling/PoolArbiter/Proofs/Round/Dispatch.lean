import PoolArbiter.Proofs.Round.Frame

/-!
# Where a report goes

A round takes its number when it begins, and it leaves the subscription alone. Neither
depends on what the controller holds, so nothing is asked of its state.
-/

namespace PoolArbiter

/-- The number of the last round, and who is to receive the report of the next one. -/
structure Controller.Address where
  round : Round
  subscription : Subscription

/-- The address of a controller. -/
def Controller.address (controller : Controller) : Controller.Address where
  round := controller.round
  subscription := controller.subscription

namespace Turn

/-- The address of a turn. -/
def address (turn : Turn) : Controller.Address :=
  turn.controller.address

variable (turn : Turn) (snapshot : Snapshot)

@[simp]
theorem address_publish (result : WorkResult) : (turn.publish result).address = turn.address :=
  rfl

@[simp]
theorem address_requeueOrDrop (item : WorkItem) :
    (turn.requeueOrDrop item).address = turn.address := by
  unfold requeueOrDrop
  dsimp only
  split <;> rfl

@[simp]
theorem address_collect : (turn.collect snapshot).address = turn.address :=
  view_foldl address address_publish _ _

@[simp]
theorem address_reclaimFault (worker : WorkerId) :
    (turn.reclaimFault worker).address = turn.address := by
  unfold reclaimFault
  dsimp only
  split
  · rfl
  · split
    · rfl
    · exact address_requeueOrDrop _ _

@[simp]
theorem address_detectFaults : turn.detectFaults.address = turn.address :=
  view_foldl address address_reclaimFault _ _

@[simp]
theorem address_applyHealth : (turn.applyHealth snapshot).address = turn.address :=
  view_foldl address address_requeueOrDrop _ _

@[simp]
theorem address_preempt (worker : WorkerId) : (turn.preempt worker).address = turn.address := by
  unfold preempt
  dsimp only
  split
  · rfl
  · split
    · rfl
    · exact address_requeueOrDrop _ _

@[simp]
theorem address_enforceCap : (turn.enforceCap snapshot).address = turn.address :=
  view_foldl address address_preempt _ _

@[simp]
theorem address_adapt : turn.adapt.address = turn.address := by
  unfold adapt
  dsimp only
  split <;> rfl

theorem address_assign? {assigned : Turn} {selection : Policy.Selection}
    (accepted : turn.assign? selection = some assigned) : assigned.address = turn.address := by
  obtain ⟨pool, _, same⟩ := Option.bind_eq_some_iff.1 accepted
  obtain rfl := Option.some.inj same
  rfl

/-- However often a worker refuses, assigning stays at the address. -/
theorem address_assignUpTo (limit : Nat) : (assignUpTo limit turn).address = turn.address := by
  induction limit generalizing turn with
  | zero => rfl
  | succ limit inductionHypothesis =>
      unfold assignUpTo
      dsimp only
      split
      · rfl
      · split
        next accepted => rw [inductionHypothesis, address_assign? turn accepted]
        next => exact address_requeueOrDrop _ _

theorem address_report : turn.settleQuality.report.1.address = turn.address :=
  rfl

/-- A report bears the number of its round. -/
theorem number_report : turn.settleQuality.report.2.round = turn.address.round :=
  rfl

end Turn

namespace Controller

/-- Before the assignments the round is counted and the subscription is as before. -/
theorem address_selecting (controller : Controller) :
    controller.selecting.address = ⟨controller.round + 1, controller.subscription⟩ := by
  have settled : (controller.beginRound.settleVerdicts
      (Snapshot.ofReports controller.feed)).address =
        ⟨controller.round + 1, controller.subscription⟩ := rfl
  rw [selecting, vetted, inspected, collected, Turn.address_adapt, Turn.address_enforceCap,
    Turn.address_applyHealth, Turn.address_detectFaults, Turn.address_collect, settled]

theorem address_assignAll (controller : Controller) :
    controller.selecting.assignAll.address =
      ⟨controller.round + 1, controller.subscription⟩ := by
  rw [Turn.assignAll, Turn.address_assignUpTo, address_selecting]

/-- A round counts itself and leaves the subscription as it is. -/
theorem address_runRound (controller : Controller) :
    controller.runRound.1.address = ⟨controller.round + 1, controller.subscription⟩ := by
  rw [runRound_eq, Turn.address_report, address_assignAll]

/-- Every round counts itself, whatever the state. -/
theorem round_runRound (controller : Controller) :
    controller.runRound.1.round = controller.round + 1 := by
  have same := congrArg Address.round controller.address_runRound
  simpa only [address] using same

/-- A round leaves the subscription as it is. -/
theorem subscription_runRound (controller : Controller) :
    controller.runRound.1.subscription = controller.subscription := by
  have same := congrArg Address.subscription controller.address_runRound
  simpa only [address] using same

/-- A report bears the number of its round. -/
theorem number_runRound (controller : Controller) :
    controller.runRound.2.round = controller.round + 1 := by
  rw [runRound_eq, Turn.number_report, address_assignAll]

end Controller

end PoolArbiter
