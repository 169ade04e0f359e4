import PoolArbiter.Proofs.Round.Oversight
import PoolArbiter.Proofs.Worker.Working

/-!
# The ceiling on workers at work

Whatever the budget and the sensor say, the cap is at most the size of the pool, and
at most as many workers as the cap are at work between two operations. A round that
finds more of them at work idles those of the highest numbers, which leaves the cap
reached, so that it assigns nothing.
-/

namespace PoolArbiter

namespace Governor

/-- No more workers can be fed than there are. -/
theorem feedable_le (settings : ThermalSettings) (poolSize : Nat) (budget : Float) :
    feedable settings poolSize budget ≤ poolSize :=
  Nat.min_le_right _ _

/-- A ceiling lowers the cap at most. -/
theorem activeCap_recompute_le (governor : Governor) (active : Nat)
    (sensor : Option SensorReading) :
    (governor.recompute active sensor).state.activeCap ≤ governor.poolSize := by
  have fed : governor.powerCap ≤ governor.poolSize := feedable_le _ _ _
  unfold recompute
  dsimp only
  cases (governor.throttle active
      (sensor.getD (model governor.settings active)).temperature).1 with
  | none => exact fed
  | some ceiling => exact (Nat.min_le_right _ _).trans fed

end Governor

namespace WorkerPool

/-- Of the workers at work those of the highest numbers were idled, highest number
first, as many as were above the cap. -/
structure Sheds (before after : WorkerPool) (cap : Nat) (forced : List WorkerId) : Prop where
  count : forced.length = before.activeCount - cap
  descending : forced.Pairwise (· > ·)
  worked : ∀ worker ∈ forced, before.Works worker
  remaining : ∀ worker, after.Works worker ↔ before.Works worker ∧ worker ∉ forced
  highest : ∀ worker ∈ forced, ∀ other, after.Works other → other < worker

variable {pool : WorkerPool}

/-- Idling the first workers of the descending list sheds those above the cap. -/
theorem Sound.sheds (sound : pool.Sound) (cap : Nat) :
    pool.Sheds (pool.releaseAll (pool.activeDescending.take (pool.activeCount - cap))) cap
      (pool.activeDescending.take (pool.activeCount - cap)) where
  count := by
    rw [List.length_take, length_activeDescending]
    exact Nat.min_eq_left (Nat.sub_le _ _)
  descending := sound.descending.sublist (List.take_sublist _ _)
  worked := fun worker taken => sound.mem_activeDescending.1 (List.mem_of_mem_take taken)
  remaining := fun _ => works_releaseAll _ _
  highest := by
    intro worker taken other works
    obtain ⟨worked, spared⟩ := (works_releaseAll _ _).1 works
    have listed := sound.mem_activeDescending.2 worked
    rw [← List.take_append_drop (pool.activeCount - cap) pool.activeDescending,
      List.mem_append] at listed
    exact sound.descending.rel_of_mem_take_of_mem_drop taken (listed.resolve_left spared)

/-- What is left at work is at most the cap. -/
theorem Sound.activeCount_releaseAll (sound : pool.Sound) (cap : Nat)
    (soundAfter :
      (pool.releaseAll (pool.activeDescending.take (pool.activeCount - cap))).Sound) :
    (pool.releaseAll (pool.activeDescending.take (pool.activeCount - cap))).activeCount =
      min pool.activeCount cap := by
  rw [← length_activeDescending, sound.activeDescending_releaseAll _ soundAfter,
    List.length_drop, length_activeDescending]
  omega

end WorkerPool

namespace Turn

variable {turn final : Turn}

/-- Assigning stops at the cap. -/
theorem Assigns.activeCount_le (assigns : Assigns turn final)
    (sound : turn.controller.pool.Sound)
    (within : turn.controller.pool.activeCount ≤ turn.controller.governor.state.activeCap) :
    final.controller.pool.activeCount ≤ turn.controller.governor.state.activeCap := by
  induction assigns with
  | done => exact within
  | @handOver turn selection final selected _ inductionHypothesis =>
      refine inductionHypothesis (sound_handOver sound selected) ?_
      rw [activeCount_handOver sound selected]
      exact (Policy.select?_eq_some selected).1

/-- Nothing is assigned once the cap is reached. -/
theorem Assigns.eq_of_full (assigns : Assigns turn final)
    (full : turn.controller.governor.state.activeCap ≤ turn.controller.pool.activeCount) :
    final = turn := by
  cases assigns with
  | done => rfl
  | handOver selected _ =>
      exact absurd (Policy.select?_eq_some selected).1 (Nat.not_lt_of_le full)

end Turn

namespace Controller

variable {controller : Controller}

/-- What a round does about the workers above the cap. -/
structure ShedsInRound (controller : Controller) : Prop where
  /-- Of the workers at work after the health reports the round idles those above the
  cap, and its report lists them. -/
  sheds : controller.vetted.controller.pool.Sheds controller.capped.controller.pool
    controller.runRound.1.governor.state.activeCap controller.runRound.2.log.forcedIdle
  /-- If there are any, the round assigns nothing and ends with the cap reached. -/
  closed : controller.runRound.2.log.forcedIdle ≠ [] →
    controller.runRound.2.log.assignments = [] ∧
      controller.runRound.1.pool.activeCount = controller.runRound.1.governor.state.activeCap

/-- The workers at work are within the cap, and the cap is within the pool, whose
size the governor knows. -/
structure WithinCap (controller : Controller) : Prop where
  active : controller.pool.activeCount ≤ controller.governor.state.activeCap
  cap : controller.governor.state.activeCap ≤ controller.governor.poolSize
  size : controller.governor.poolSize = controller.pool.size

/-- The workers that the round idles are the first ones of the descending list. -/
theorem Sound.forcedIdle_eq_take (sound : controller.Sound) :
    controller.runRound.2.log.forcedIdle =
      controller.vetted.controller.pool.activeDescending.take
        (controller.vetted.controller.pool.activeCount -
          controller.runRound.1.governor.state.activeCap) := by
  rw [sound.forcedIdle_eq_excess, Governor.excess, WorkerPool.length_activeDescending]

/-- The cap idles the workers that the round reports as forced to idle. -/
theorem Sound.pool_capped (sound : controller.Sound) :
    controller.capped.controller.pool =
      controller.vetted.controller.pool.releaseAll controller.runRound.2.log.forcedIdle := by
  rw [sound.forcedIdle_runRound, capped, Turn.pool_enforceCap]

/-- The step that enforces the cap leaves as many workers at work as the cap allows. -/
theorem Sound.activeCount_capped (sound : controller.Sound) :
    controller.capped.controller.pool.activeCount =
      min controller.vetted.controller.pool.activeCount
        controller.runRound.1.governor.state.activeCap := by
  have soundAfter := (sound.vetted.enforceCap (Snapshot.ofReports controller.feed)).sound
  rw [← capped, sound.pool_capped, sound.forcedIdle_eq_take] at soundAfter
  rw [sound.pool_capped, sound.forcedIdle_eq_take]
  exact sound.vetted.sound.activeCount_releaseAll _ soundAfter

/-- A round sheds the highest numbers down to the cap. -/
theorem Sound.shedsInRound (sound : controller.Sound) : controller.ShedsInRound where
  sheds := by
    rw [sound.pool_capped, sound.forcedIdle_eq_take]
    exact sound.vetted.sound.sheds _
  closed := by
    intro forced
    have above : controller.runRound.1.governor.state.activeCap <
        controller.vetted.controller.pool.activeCount := by
      rw [sound.forcedIdle_eq_take] at forced
      by_contra within
      rw [Nat.sub_eq_zero_of_le (Nat.le_of_not_lt within), List.take_zero] at forced
      exact forced rfl
    have reached : controller.selecting.controller.pool.activeCount =
        controller.runRound.1.governor.state.activeCap := by
      rw [selecting_eq, Turn.pool_adapt, sound.activeCount_capped, Nat.min_eq_right above.le]
    -- Shedding left exactly the cap, so the policy selects nothing.
    have unchanged := (Turn.assignAll_assigns sound.selecting.sound).eq_of_full (by
      rw [governor_selecting, ← sound.governor_capped, reached])
    have unassigned := congrArg Turn.Frame.assignments (frame_selecting controller)
    rw [← reached, pool_runRound, runRound_eq, Turn.log_report, unchanged]
    exact ⟨unassigned, rfl⟩

/-- After a round the workers at work are within the cap of that round. -/
theorem Sound.withinCap_runRound (sound : controller.Sound) (within : controller.WithinCap) :
    controller.runRound.1.WithinCap where
  active := by
    have bounded : controller.selecting.controller.pool.activeCount ≤
        controller.selecting.controller.governor.state.activeCap := by
      rw [governor_selecting, ← sound.governor_capped, selecting_eq, Turn.pool_adapt,
        sound.activeCount_capped]
      exact Nat.min_le_right _ _
    rw [pool_runRound, sound.governor_capped, ← governor_selecting]
    exact (Turn.assignAll_assigns sound.selecting.sound).activeCount_le sound.selecting.sound
      bounded
  cap := by
    rw [sound.governor_runRound]
    exact Governor.activeCap_recompute_le _ _ _
  size := by
    rw [sound.governor_runRound, WorkerPool.size_eq_of_layout sound.layout_runRound]
    exact within.size

/-- Operations between two rounds change no more of the governor than its budget. -/
theorem governor_perform (controller : Controller) (operation : Operation)
    (between : operation ≠ .round) :
    (controller.perform operation).1.governor =
      { controller.governor with budget := (controller.perform operation).1.governor.budget } := by
  have same := congrArg Oversight.governor (oversight_perform controller operation {})
  cases operation with
  | round => exact absurd rfl between
  | setBudget watts => rfl
  | _ =>
      simp only [Oversight.of] at same
      rw [same]

/-- Between two rounds no worker starts and the cap stays. -/
theorem Sound.withinCap_perform (sound : controller.Sound) (within : controller.WithinCap)
    (operation : Operation) (between : operation ≠ .round) :
    (controller.perform operation).1.WithinCap := by
  have frees := sound.frees_perform operation between
  have governor := governor_perform controller operation between
  have soundAfter := (sound.perform operation).sound
  refine ⟨?_, ?_, ?_⟩
  · rw [governor]
    exact (sound.pool.activeCount_le_of_frees soundAfter.pool frees).trans within.active
  · rw [governor]
    exact within.cap
  · rw [governor, WorkerPool.size_eq_of_layout frees.layout]
    exact within.size

end Controller

namespace Lifetime

variable {config : Configuration} {history : History} {controller : Controller}

/-- A fresh pool is at rest, so it is within its cap. -/
theorem withinCap_start (config : Configuration) : (Controller.start config).WithinCap where
  active := by
    have idle : (Controller.start config).pool.activeCount = 0 := by
      rw [← (ledgered_start config).sound.pool.card_held]
      exact Multiset.card_eq_zero.2 (WorkerPool.held_fresh _ _ _)
    rw [idle]
    exact Nat.zero_le _
  cap := Governor.feedable_le _ _ _
  size := by simp [Controller.start, Governor.fresh, WorkerPool.fresh, WorkerPool.size]

/-- Throughout a lifetime no more workers are at work than the cap allows. -/
theorem withinCap (lifetime : Lifetime config history controller) : controller.WithinCap :=
  lifetime.invariant_of_sound (withinCap_start config)
    (fun sound within => sound.withinCap_runRound within)
    (fun operation between sound within => sound.withinCap_perform within operation between)

/-- Between two operations at most as many workers are at work as the cap allows, and
the cap allows at most the pool. A round idles exactly the workers of the highest
numbers above the cap; if there are any, it assigns nothing and ends with the cap
reached. Budgets and readings may be any floats. -/
theorem ceiling (lifetime : Lifetime config history controller) :
    controller.pool.activeCount ≤ controller.governor.state.activeCap ∧
      controller.governor.state.activeCap ≤ controller.pool.size ∧
      controller.ShedsInRound := by
  have within := lifetime.withinCap
  exact ⟨within.active, within.size ▸ within.cap, lifetime.ledgered.sound.shedsInRound⟩

/-- Three workers are at work when the budget falls to what one of them needs and the
sensor reads no number: the next round idles the workers 2 and 1. -/
theorem ceiling_after_budget_fall :
    let start := Controller.start { pool := { workers := 3 } }
    let operations : List Operation :=
      [.submit ⟨[1]⟩ .low, .submit ⟨[2]⟩ .high, .submit ⟨[3]⟩ .low, .round,
        .setBudget 0.8, .receive (.sensor ⟨0, 0 / 0⟩)]
    let controller := start.after operations
    Lifetime { pool := { workers := 3 } } (start.stepsOf operations) controller ∧
      controller.pool.activeCount = 3 ∧
      controller.runRound.2.log.forcedIdle = [2, 1] ∧
      controller.runRound.1.governor.state.activeCap = 1 ∧
      (controller.pool.activeCount ≤ controller.governor.state.activeCap ∧
        controller.governor.state.activeCap ≤ controller.pool.size ∧
        controller.ShedsInRound) := by
  intro start operations controller
  have lifetime : Lifetime { pool := { workers := 3 } } (start.stepsOf operations) controller :=
    (Lifetime.start rfl).after operations
  refine ⟨lifetime, ?_, ?_, ?_, lifetime.ceiling⟩ <;> decide +kernel

end Lifetime

end PoolArbiter
