import PoolArbiter.Controller.Round
import PoolArbiter.Proofs.Selection.Choice

/-!
# Assigning until nothing is selected

`Turn.Assigns` relates a turn to the turn after all its assignments: one selected
item after the other is handed to its worker, and at the end the policy selects
nothing. `Turn.assignAll_assigns` says that this is what a round does: no worker
refuses, and the number of queued items never cuts the assignments short.
-/

namespace PoolArbiter

namespace WorkerPool

variable {pool : WorkerPool} {worker : WorkerId} {slot : WorkerSlot}

/-- An eligible slot of a sound pool can take an item. -/
theorem Sound.take (sound : pool.Sound) (found : pool.slot? worker = some slot)
    (eligible : slot.isEligible = true) (item : WorkItem) (range : SearchRange)
    (round : Round) : (pool.update worker (·.take item range round)).Sound :=
  sound.update (fun _ => rfl) fun other present => by
    obtain rfl : slot = other := Option.some.inj (found.symm.trans present)
    exact (sound.slot (mem_of_slot? found)).take eligible item range round

/-- An eligible slot holds no item. -/
theorem Sound.item_eq_none_of_isEligible (sound : pool.Sound)
    (found : pool.slot? worker = some slot) (eligible : slot.isEligible = true) :
    slot.item = none := by
  apply (sound.slot (mem_of_slot? found)).item_eq_none
  simp only [WorkerSlot.isEligible, Bool.and_eq_true, beq_iff_eq] at eligible
  simp [WorkerSlot.isActive, eligible.1, WorkerState.isActive]

end WorkerPool

namespace Turn

/-- What a policy selects in the middle of a round. -/
def selection? (turn : Turn) : Option Policy.Selection :=
  turn.controller.policy.select? turn.controller.queues turn.controller.pool
    turn.controller.governor.state.activeCap

/-- The assignment that a selection stands for. -/
def assignmentOf (turn : Turn) (selection : Policy.Selection) : Assignment where
  worker := selection.worker
  work := selection.item.id
  tier := selection.item.tier
  range := turn.controller.pool.rangeFor selection.worker
  payload := selection.item.payload

/-- The turn after the selected item was handed to its worker. -/
def handOver (turn : Turn) (selection : Policy.Selection) : Turn where
  controller :=
    { turn.controller with
      policy := selection.policy
      queues := selection.queues
      pool :=
        turn.controller.pool.update selection.worker
          (·.take selection.item (turn.controller.pool.rangeFor selection.worker)
            turn.controller.round) }
  log :=
    { turn.log with
      assignments := turn.log.assignments ++ [turn.assignmentOf selection] }

/-- Selected items are handed over until nothing is selected. -/
inductive Assigns : Turn → Turn → Prop where
  | done {turn : Turn} (exhausted : turn.selection? = none) : Assigns turn turn
  | handOver {turn : Turn} {selection : Policy.Selection} {final : Turn}
      (selected : turn.selection? = some selection)
      (rest : Assigns (turn.handOver selection) final) : Assigns turn final

variable {turn final : Turn} {selection : Policy.Selection}

/-- The worker of a selection holds no item and is ready to take one. -/
theorem eligible_of_selection? (sound : turn.controller.pool.Sound)
    (selected : turn.selection? = some selection) :
    ∃ slot, turn.controller.pool.slot? selection.worker = some slot ∧
      slot.isEligible = true ∧ slot.item = none := by
  obtain ⟨slot, found, eligible⟩ :=
    Policy.eligible_of_worker? sound.numbered (Policy.select?_eq_some selected).2.1
  exact ⟨slot, found, eligible, sound.item_eq_none_of_isEligible found eligible⟩

/-- A selected worker never refuses. -/
theorem assign?_of_selection? (sound : turn.controller.pool.Sound)
    (selected : turn.selection? = some selection) :
    turn.assign? selection = some (turn.handOver selection) := by
  obtain ⟨slot, found, eligible, _⟩ := eligible_of_selection? sound selected
  simp [assign?, WorkerPool.assign?, found, eligible, handOver, assignmentOf]

/-- An assignment leaves a sound pool. -/
theorem sound_handOver (sound : turn.controller.pool.Sound)
    (selected : turn.selection? = some selection) :
    (turn.handOver selection).controller.pool.Sound := by
  obtain ⟨slot, found, eligible, _⟩ := eligible_of_selection? sound selected
  exact sound.take found eligible _ _ _

/-- The item that is handed over leaves the queues. -/
theorem contents_handOver (selected : turn.selection? = some selection) :
    turn.controller.queues.contents =
      selection.item ::ₘ (turn.handOver selection).controller.queues.contents := by
  obtain ⟨_, _, ⟨tier, _, popped⟩, _⟩ := Policy.select?_eq_some selected
  exact AdmissionQueues.contents_popFrom? popped

/-- The item that is handed over is held by its worker. -/
theorem held_handOver (sound : turn.controller.pool.Sound)
    (selected : turn.selection? = some selection) :
    (turn.handOver selection).controller.pool.held =
      selection.item ::ₘ turn.controller.pool.held := by
  obtain ⟨slot, found, _, free⟩ := eligible_of_selection? sound selected
  exact WorkerPool.gather_of_none_some found free rfl

/-- An assignment puts one more worker to work. -/
theorem activeCount_handOver (sound : turn.controller.pool.Sound)
    (selected : turn.selection? = some selection) :
    (turn.handOver selection).controller.pool.activeCount =
      turn.controller.pool.activeCount + 1 := by
  rw [← (sound_handOver sound selected).card_held, held_handOver sound selected,
    Multiset.card_cons, sound.card_held]

/-- With enough attempts the assignments go on until there is nothing to select. -/
private theorem assignUpTo_assigns {limit : Nat} (sound : turn.controller.pool.Sound)
    (enough : turn.controller.queues.contents.card ≤ limit) :
    Assigns turn (assignUpTo limit turn) := by
  induction limit generalizing turn with
  | zero =>
      have empty : turn.controller.queues.contents = 0 :=
        Multiset.card_eq_zero.1 (Nat.le_zero.1 enough)
      exact .done (Policy.select?_eq_none_iff.2 (.inr (.inl empty)))
  | succ limit inductionHypothesis =>
      unfold assignUpTo
      dsimp only
      split
      next exhausted => exact .done exhausted
      next selection selected =>
        have accepted := assign?_of_selection? sound selected
        have taken := congrArg Multiset.card (contents_handOver selected)
        rw [Multiset.card_cons] at taken
        rw [accepted]
        exact .handOver selected
          (inductionHypothesis (sound_handOver sound selected) (by omega))

/-- A round assigns until nothing is selected. -/
theorem assignAll_assigns (sound : turn.controller.pool.Sound) :
    Assigns turn turn.assignAll := by
  refine assignUpTo_assigns sound ?_
  rw [AdmissionQueues.card_contents]

/-- At the end the cap is reached, no item waits, or no worker is eligible. -/
theorem Assigns.exhausted (assigns : Assigns turn final) : final.selection? = none := by
  induction assigns with
  | done exhausted => exact exhausted
  | handOver _ _ inductionHypothesis => exact inductionHypothesis

/-- What keeps a policy from selecting is not changed by closing the books. -/
theorem exhausted_report (exhausted : turn.selection? = none) :
    let after := turn.settleQuality.report.1
    after.governor.state.activeCap ≤ after.pool.activeCount ∨ after.queues.contents = 0 ∨
      after.pool.eligibleSlots = [] := by
  have reasons := Policy.select?_eq_none_iff.1 exhausted
  exact reasons

end Turn

end PoolArbiter
