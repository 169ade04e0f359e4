import PoolArbiter.Proofs.Round.Pool

/-!
# What a round does to single slots

A phase takes the item from a slot or puts one into it. A property that every free
slot has, and every slot that takes an item in the current round, is therefore
kept by all phases: `Steady` names such properties. After the faults of a round no
worker is past its time, and that is steady.
-/

namespace PoolArbiter

/-- Every slot has a property. -/
def WorkerPool.Each (pool : WorkerPool) (good : WorkerSlot → Prop) : Prop :=
  ∀ slot ∈ pool.slots, good slot

/-- A property of vacant slots is kept when slots are freed. -/
theorem WorkerPool.Each.frees {good : WorkerSlot → Prop} {before after : WorkerPool}
    (each : before.Each good) (frees : before.Frees after)
    (vacant : ∀ slot : WorkerSlot, slot.Vacant → good slot) : after.Each good := by
  intro slot member
  obtain ⟨worker, found⟩ := List.getElem?_of_mem member
  obtain ⟨earlier, present, freed⟩ := frees.slot found
  cases freed with
  | kept => exact each slot (mem_of_slot? present)
  | freed _ empty => exact vacant slot empty

/-- A property of slots that the phases of a round keep. -/
structure Steady (round : Round) (good : WorkerSlot → Prop) : Prop where
  free : ∀ slot : WorkerSlot, slot.isActive = false → slot.assignedRound = none → good slot
  taken : ∀ (slot : WorkerSlot) item range, good (slot.take item range round)

namespace Steady

variable {round : Round} {good : WorkerSlot → Prop} {turn : Turn}

/-- Freeing slots keeps a steady property. -/
theorem frees {before after : WorkerPool} (steady : Steady round good)
    (each : before.Each good) (frees : before.Frees after) : after.Each good :=
  each.frees frees fun slot vacant => steady.free slot vacant.inactive vacant.assignedRound

/-- Assignments keep a steady property. -/
theorem assigns {final : Turn} (steady : Steady turn.controller.round good)
    (assigns : Turn.Assigns turn final) (sound : turn.controller.pool.Sound)
    (each : turn.controller.pool.Each good) : final.controller.pool.Each good := by
  intro slot member
  obtain ⟨worker, found⟩ := List.getElem?_of_mem member
  rcases assigns.slot_cases sound found with same | ⟨earlier, item, _, _, _, rfl⟩
  · exact each slot (WorkerPool.mem_of_slot? same)
  · exact steady.taken _ _ _

end Steady

namespace Controller

variable {controller : Controller} {good : WorkerSlot → Prop}

/-- A steady property that holds after the faults of a round holds at its end. -/
theorem Sound.each_runRound (sound : controller.Sound)
    (steady : Steady (controller.round + 1) good)
    (each : controller.inspected.controller.pool.Each good) :
    controller.runRound.1.pool.Each good := by
  have selecting := steady.frees each
    (controller.frees_vetted.trans controller.frees_selecting)
  rw [← round_selecting] at steady
  rw [pool_runRound]
  exact steady.assigns (Turn.assignAll_assigns sound.selecting.sound) sound.selecting.sound
    selecting

end Controller

section Dates

/-- Items are handed over in past rounds only. -/
def WorkerSlot.Dated (round : Round) (slot : WorkerSlot) : Prop :=
  ∀ assigned ∈ slot.assignedRound, assigned ≤ round

/-- The dates of the assignments are kept by all phases. -/
theorem steady_dated (round : Round) : Steady round (WorkerSlot.Dated round) where
  free := by
    intro slot _ unassigned assigned member
    simp [unassigned] at member
  taken := by
    rintro slot item range assigned ⟨⟩
    exact Nat.le_refl _

/-- A worker past its time is a fault that a round settles. -/
theorem steady_inTime (settings : PoolSettings) (round : Round) :
    Steady round (fun slot => Turn.isOverdue settings round slot = false) where
  free := by
    intro slot inactive _
    simp [Turn.isOverdue, inactive]
  taken := by
    intro slot item range
    simp [Turn.isOverdue, WorkerSlot.elapsed, WorkerSlot.take]

/-- After the search for late workers none is late. -/
theorem inTime_detectFaults {turn : Turn} (sound : turn.controller.pool.Sound) :
    turn.detectFaults.controller.pool.Each fun slot =>
      Turn.isOverdue turn.controller.config.pool turn.controller.round slot = false := by
  intro slot member
  obtain ⟨worker, found⟩ := List.getElem?_of_mem member
  replace found : turn.detectFaults.controller.pool.slot? worker = some slot := found
  rw [Turn.pool_detectFaults, WorkerPool.slot?_releaseAll] at found
  split at found
  next =>
    obtain ⟨old, _, rfl⟩ := Option.map_eq_some_iff.1 found
    rfl
  next spared =>
    by_contra late
    refine spared (List.mem_map.2 ⟨slot, List.mem_filter.2 ⟨WorkerPool.mem_of_slot? found, ?_⟩,
      sound.number found⟩)
    simpa using late

end Dates

namespace Controller

variable {controller : Controller}

/-- At the end of a round items were handed over in this round or before. -/
theorem Sound.dated_runRound (sound : controller.Sound)
    (dated : controller.pool.Each (WorkerSlot.Dated controller.round)) :
    controller.runRound.1.pool.Each (WorkerSlot.Dated (controller.round + 1)) := by
  have steady := steady_dated (controller.round + 1)
  have promoted : controller.pool.promote.Each (WorkerSlot.Dated (controller.round + 1)) := by
    intro slot member assigned past
    obtain ⟨old, present, rfl⟩ := List.mem_map.1 member
    rw [WorkerSlot.promote_eq] at past
    exact Nat.le_succ_of_le (dated old present assigned past)
  exact sound.each_runRound steady
    (steady.frees promoted (controller.frees_collected.trans controller.frees_inspected))

/-- A fresh pool has no assignments to date. -/
theorem dated_start (config : Configuration) :
    (Controller.start config).pool.Each
      (WorkerSlot.Dated (Controller.start config).round) := by
  intro slot member assigned given
  obtain ⟨worker, _, rfl⟩ := List.mem_map.1 member
  cases given

/-- Every operation keeps the dates in order. -/
theorem Sound.dated_perform (sound : controller.Sound)
    (dated : controller.pool.Each (WorkerSlot.Dated controller.round)) (operation : Operation) :
    (controller.perform operation).1.pool.Each
      (WorkerSlot.Dated (controller.perform operation).1.round) := by
  by_cases round : operation = .round
  · rw [round, perform_round, sound.round_runRound]
    exact sound.dated_runRound dated
  · rw [round_perform _ operation round]
    exact (steady_dated controller.round).frees dated (sound.frees_perform operation round)

/-- At the end of a round no worker is past its time. -/
theorem Sound.inTime_runRound (sound : controller.Sound) :
    controller.runRound.1.pool.Each fun slot =>
      Turn.isOverdue controller.config.pool (controller.round + 1) slot = false := by
  refine sound.each_runRound (steady_inTime _ _) ?_
  have inTime := inTime_detectFaults sound.collected.sound
  rw [config_collected, round_collected] at inTime
  exact inTime

end Controller

/-- Throughout a lifetime items were handed over in past rounds only. -/
theorem Lifetime.dated {config : Configuration} {history : History} {controller : Controller}
    (lifetime : Lifetime config history controller) :
    controller.pool.Each (WorkerSlot.Dated controller.round) := by
  induction lifetime with
  | start created => exact start_eq created ▸ Controller.dated_start config
  | step prior operation inductionHypothesis =>
      exact prior.ledgered.sound.dated_perform inductionHypothesis operation

end PoolArbiter
