import PoolArbiter.Proofs.Custody.ExactlyOnce
import PoolArbiter.Proofs.Worker.Freeing

/-!
# What a round does to the pool

Up to the assignments a round only frees slots, and the operations between two
rounds free slots at most. `Turn.Assigns.slot_cases` says what assigning does: a
slot stays as it is, or an eligible one takes an item that was queued. The layout of
the pool never changes.
-/

namespace PoolArbiter

namespace Turn

section Phases

variable (turn : Turn) (snapshot : Snapshot)

/-- The workers past their time. -/
def overdue : List WorkerId :=
  (turn.controller.pool.slots.filter
    (isOverdue turn.controller.config.pool turn.controller.round)).map (·.id)

/-- Collecting leaves the pool of the poll. -/
theorem pool_collect :
    (turn.collect snapshot).controller.pool =
      (turn.controller.collector.poll snapshot.completions turn.controller.pool
        turn.controller.round).pool :=
  view_foldl (·.controller.pool) pool_publish _ _

/-- The late workers are idled. -/
theorem pool_detectFaults :
    turn.detectFaults.controller.pool = turn.controller.pool.releaseAll turn.overdue :=
  WorkerPool.view_foldl_release (fun turn : Turn => turn.controller.pool) pool_reclaimFault _ _

/-- The health reports change the pool as the gate says. -/
theorem pool_applyHealth :
    (turn.applyHealth snapshot).controller.pool =
      (turn.controller.gate.applyReports turn.controller.pool snapshot.health).pool :=
  view_foldl (·.controller.pool) pool_requeueOrDrop _ _

/-- The workers over the cap are idled. -/
theorem pool_enforceCap :
    (turn.enforceCap snapshot).controller.pool =
      turn.controller.pool.releaseAll (turn.enforceCap snapshot).log.forcedIdle :=
  WorkerPool.view_foldl_release (fun turn : Turn => turn.controller.pool) pool_preempt _ _

/-- The adaptation leaves the workers alone. -/
theorem pool_adapt : turn.adapt.controller.pool = turn.controller.pool := by
  unfold adapt
  dsimp only
  split <;> rfl

/-- Collecting does no more to the slots than free them. -/
theorem frees_collect : turn.controller.pool.Frees (turn.collect snapshot).controller.pool := by
  rw [pool_collect]
  exact WorkerPool.frees_poll _ _ _ _

/-- Looking for late workers does no more to the slots than free them. -/
theorem frees_detectFaults : turn.controller.pool.Frees turn.detectFaults.controller.pool := by
  rw [pool_detectFaults]
  exact WorkerPool.frees_releaseAll _ _

/-- Exclusions do no more to the slots than free them. -/
theorem frees_applyHealth :
    turn.controller.pool.Frees (turn.applyHealth snapshot).controller.pool := by
  rw [pool_applyHealth]
  exact WorkerPool.frees_applyReports _ _ _

/-- Enforcing the cap does no more to the slots than free them. -/
theorem frees_enforceCap :
    turn.controller.pool.Frees (turn.enforceCap snapshot).controller.pool := by
  rw [pool_enforceCap]
  exact WorkerPool.frees_releaseAll _ _

end Phases

section Assigning

variable {turn final : Turn} {selection : Policy.Selection}

/-- An assignment leaves the layout alone. -/
theorem layout_handOver (turn : Turn) (selection : Policy.Selection) :
    (turn.handOver selection).controller.pool.layout = turn.controller.pool.layout :=
  WorkerPool.layout_update _ _ _

/-- Assignments leave the layout alone. -/
theorem Assigns.layout_eq (assigns : Assigns turn final) :
    final.controller.pool.layout = turn.controller.pool.layout := by
  induction assigns with
  | done => rfl
  | handOver _ _ inductionHypothesis => rw [inductionHypothesis, layout_handOver]

/-- The slots after one item was handed over. -/
theorem slot?_handOver (turn : Turn) (selection : Policy.Selection) (worker : WorkerId) :
    (turn.handOver selection).controller.pool.slot? worker =
      if selection.worker = worker then
        (turn.controller.pool.slot? worker).map (·.take selection.item
          (turn.controller.pool.rangeFor selection.worker) turn.controller.round)
      else turn.controller.pool.slot? worker :=
  WorkerPool.slot?_update _ _ _ _

/-- Assigning leaves a slot as it is, or an eligible slot takes an item that was
queued, with the slice of its worker and the current round. -/
theorem Assigns.slot_cases (assigns : Assigns turn final) (sound : turn.controller.pool.Sound)
    {worker : WorkerId} {later : WorkerSlot}
    (found : final.controller.pool.slot? worker = some later) :
    turn.controller.pool.slot? worker = some later ∨
      ∃ earlier item, turn.controller.pool.slot? worker = some earlier ∧
        earlier.isEligible = true ∧ item ∈ turn.controller.queues.contents ∧
        later = earlier.take item (turn.controller.pool.rangeFor worker)
          turn.controller.round := by
  induction assigns with
  | done => exact .inl found
  | @handOver turn selection final selected rest inductionHypothesis =>
      rcases inductionHypothesis (sound_handOver sound selected) found with
        same | ⟨middle, item, present, eligible, queued, taken⟩
      · rw [slot?_handOver] at same
        split at same
        next chosen =>
          subst chosen
          obtain ⟨earlier, present, rfl⟩ := Option.map_eq_some_iff.1 same
          obtain ⟨slot, foundSlot, eligible, _⟩ := eligible_of_selection? sound selected
          obtain rfl : slot = earlier := Option.some.inj (foundSlot.symm.trans present)
          refine .inr ⟨slot, selection.item, present, eligible, ?_, rfl⟩
          rw [contents_handOver selected]
          exact Multiset.mem_cons_self _ _
        next => exact .inl same
      · rw [slot?_handOver] at present
        split at present
        next =>
          -- The worker of the first item is at work, so it takes no second one.
          obtain ⟨earlier, _, rfl⟩ := Option.map_eq_some_iff.1 present
          simp [WorkerSlot.isEligible, WorkerSlot.take] at eligible
        next =>
          refine .inr ⟨middle, item, present, eligible, ?_, ?_⟩
          · rw [contents_handOver selected]
            exact Multiset.mem_cons_of_mem queued
          · rw [taken, WorkerPool.rangeFor_eq_of_layout (layout_handOver turn selection)]
            rfl

/-- An assignment goes to a worker that was eligible, with the slice of the worker. -/
theorem Assigns.assignment_cases (assigns : Assigns turn final)
    (sound : turn.controller.pool.Sound) {assignment : Assignment}
    (listed : assignment ∈ final.log.assignments) :
    assignment ∈ turn.log.assignments ∨
      ((∃ slot, turn.controller.pool.slot? assignment.worker = some slot ∧
          slot.isEligible = true) ∧
        assignment.range = turn.controller.pool.rangeFor assignment.worker) := by
  induction assigns with
  | done => exact .inl listed
  | @handOver turn selection final selected rest inductionHypothesis =>
      rcases inductionHypothesis (sound_handOver sound selected) listed with
        earlier | ⟨⟨slot, found, eligible⟩, range⟩
      · rcases List.mem_append.1 earlier with old | new
        · exact .inl old
        · obtain rfl := List.mem_singleton.1 new
          obtain ⟨slot, found, eligible, _⟩ := eligible_of_selection? sound selected
          exact .inr ⟨⟨slot, found, eligible⟩, rfl⟩
      · rw [WorkerPool.rangeFor_eq_of_layout (layout_handOver turn selection)] at range
        refine .inr ⟨⟨slot, ?_, eligible⟩, range⟩
        rw [slot?_handOver] at found
        split at found
        next =>
          obtain ⟨earlier, _, rfl⟩ := Option.map_eq_some_iff.1 found
          simp [WorkerSlot.isEligible, WorkerSlot.take] at eligible
        next => exact found

end Assigning

end Turn

namespace Controller

variable {controller : Controller}

/-- Up to the collection slots are only freed, once work is taken up. -/
theorem frees_collected (controller : Controller) :
    controller.pool.promote.Frees controller.collected.controller.pool :=
  (controller.beginRound.settleVerdicts (Snapshot.ofReports controller.feed)).frees_collect _

/-- The search for late workers only frees slots. -/
theorem frees_inspected (controller : Controller) :
    controller.collected.controller.pool.Frees controller.inspected.controller.pool :=
  Turn.frees_detectFaults _

/-- The exclusions only free slots. -/
theorem frees_vetted (controller : Controller) :
    controller.inspected.controller.pool.Frees controller.vetted.controller.pool :=
  Turn.frees_applyHealth _ _

/-- Between the exclusions and the assignments slots are only freed. -/
theorem frees_selecting (controller : Controller) :
    controller.vetted.controller.pool.Frees controller.selecting.controller.pool := by
  rw [selecting, Turn.pool_adapt]
  exact Turn.frees_enforceCap _ _

/-- Before it assigns items a round only frees slots. -/
theorem frees_before_assigning (controller : Controller) :
    controller.pool.promote.Frees controller.selecting.controller.pool :=
  (frees_collected controller).trans
    ((frees_inspected controller).trans
      ((frees_vetted controller).trans (frees_selecting controller)))

/-- After the assignments a round leaves the workers alone. -/
theorem pool_runRound (controller : Controller) :
    controller.runRound.1.pool = controller.selecting.assignAll.controller.pool := by
  rw [runRound_eq, Turn.pool_report]

/-- A round leaves the layout alone. -/
theorem Sound.layout_runRound (sound : controller.Sound) :
    controller.runRound.1.pool.layout = controller.pool.layout := by
  rw [pool_runRound, (Turn.assignAll_assigns sound.selecting.sound).layout_eq,
    controller.frees_before_assigning.layout, WorkerPool.layout_promote]

/-- What a round assigns goes to a worker that is eligible then, with the slice of the
worker. -/
theorem Sound.assignment_runRound (sound : controller.Sound) {assignment : Assignment}
    (listed : assignment ∈ controller.runRound.2.log.assignments) :
    (∃ slot, controller.selecting.controller.pool.slot? assignment.worker = some slot ∧
        slot.isEligible = true) ∧
      assignment.range = controller.pool.rangeFor assignment.worker := by
  rw [runRound_eq, Turn.log_report] at listed
  have layout : controller.selecting.controller.pool.layout = controller.pool.layout :=
    controller.frees_before_assigning.layout.trans (WorkerPool.layout_promote _)
  rcases (Turn.assignAll_assigns sound.selecting.sound).assignment_cases sound.selecting.sound
    listed with earlier | ⟨eligible, range⟩
  · rw [assignments_selecting] at earlier
    cases earlier
  · rw [WorkerPool.rangeFor_eq_of_layout layout] at range
    exact ⟨eligible, range⟩

/-- Draining idles the workers at work, in ascending order. -/
theorem pool_drain (controller : Controller) :
    controller.drain.1.pool =
      controller.pool.releaseAll controller.pool.activeDescending.reverse :=
  WorkerPool.view_foldl_release (fun progress : Controller × List DropRecord =>
    progress.1.pool) pool_drainWorker _ _

/-- The security reset restores the excluded workers. -/
theorem pool_resetSecurity (controller : Controller) :
    controller.resetSecurity.pool =
      controller.pool.updateAll controller.gate.excluded.keys TrustGate.restore :=
  rfl

/-- Between two rounds only draining and the reset change the pool. -/
theorem pool_perform (controller : Controller) (operation : Operation) :
    (controller.perform operation).1.pool =
      match operation with
      | .round => controller.runRound.1.pool
      | .drain => controller.pool.releaseAll controller.pool.activeDescending.reverse
      | .resetSecurity =>
          controller.pool.updateAll controller.gate.excluded.keys TrustGate.restore
      | _ => controller.pool := by
  cases operation with
  | submit payload tier =>
      unfold perform submit
      dsimp only
      split
      · rfl
      · split <;> rfl
  | withdraw work =>
      unfold perform withdraw
      dsimp only
      split <;> rfl
  | drain => exact pool_drain controller
  | _ => rfl

/-- The operations between two rounds free slots at most. -/
theorem Sound.frees_perform (sound : controller.Sound) (operation : Operation)
    (between : operation ≠ .round) :
    controller.pool.Frees (controller.perform operation).1.pool := by
  rw [pool_perform]
  cases operation with
  | round => exact absurd rfl between
  | drain => exact WorkerPool.frees_releaseAll _ _
  | resetSecurity =>
      refine WorkerPool.frees_updateAll _ _ TrustGate.restore_restore fun found => ?_
      exact (sound.pool.slot (WorkerPool.mem_of_slot? found)).frees_restore
  | _ => exact .refl _

end Controller

namespace Lifetime

variable {config : Configuration} {history : History} {controller : Controller}

/-- What the first controller has, every round keeps and the operations between two
rounds keep holds throughout. All controllers on the way are sound. -/
theorem invariant_of_sound {motive : Controller → Prop}
    (lifetime : Lifetime config history controller) (initial : motive (.start config))
    (round : ∀ {before : Controller}, before.Sound → motive before →
      motive before.runRound.1)
    (between : ∀ {before : Controller} (operation : Operation), operation ≠ .round →
      before.Sound → motive before → motive (before.perform operation).1) :
    motive controller :=
  lifetime.invariant (motive := fun _ controller => motive controller) initial
    (fun prior kept => round prior.ledgered.sound kept)
    fun operation isBetween prior kept => between operation isBetween prior.ledgered.sound kept

/-- The configuration never changes. -/
theorem config_eq (lifetime : Lifetime config history controller) :
    controller.config = config := by
  refine lifetime.invariant_of_sound (motive := fun controller => controller.config = config)
    rfl ?_ ?_
  · intro before sound same
    rw [sound.config_runRound, same]
  · intro before operation between sound same
    rw [Controller.config_perform before operation between, same]

/-- The pool keeps the layout that is configured. -/
theorem layout (lifetime : Lifetime config history controller) :
    controller.pool.layout =
      ⟨config.pool.workers, config.pool.searchSpace, config.pool.partitionMode⟩ := by
  refine lifetime.invariant_of_sound (motive := fun controller =>
    controller.pool.layout = _) (WorkerPool.layout_fresh _ _ _) ?_ ?_
  · intro before sound same
    rw [sound.layout_runRound, same]
  · intro before operation between sound same
    rw [(sound.frees_perform operation between).layout, same]

end Lifetime

end PoolArbiter
