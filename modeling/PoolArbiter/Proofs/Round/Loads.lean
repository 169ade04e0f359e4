import PoolArbiter.Proofs.Collection.Accounting
import PoolArbiter.Proofs.Collection.Integrity
import PoolArbiter.Proofs.Floats.Means
import PoolArbiter.Proofs.Words.Round

/-!
# Loads

A worker reports its load with a completion, as any float at all. A load is kept within the
percentages as it is taken in, except for what is not a number. `Controller.loads_runRound` says
that nothing else in a round touches the loads. So they stay percentages for as long as the
completions that count carry numbers, and so does their mean, unless there are so many workers
that rounding the sum tells.
-/

namespace PoolArbiter

open Unpacking (IsWithin number?)

section Clamping

/-- A value that stands for a number from zero to a hundred. -/
def Binary64.IsPercentage (word : Binary64) : Prop :=
  IsWithin word.toFloat 100

/-- What is moved into the percentages ends there if it is a number, and only then. -/
theorem Binary64.isPercentage_clamp_iff (word : Binary64) :
    (clamp 0 100 word).IsPercentage ↔ word.isNaN = false := by
  rw [← Unpacking.isNaN_toFloat]
  unfold clamp IsPercentage
  split
  next below =>
    rw [Unpacking.toFloat_ofFloat]
    have number := ((Unpacking.lt_iff_not_le _ _).1 below).1
    exact iff_of_true (Unpacking.isWithin_zero (by norm_num)) number
  next notBelow =>
    split
    next above =>
      rw [Unpacking.toFloat_ofFloat]
      have number := ((Unpacking.lt_iff_not_le _ _).1 above).2.1
      exact iff_of_true ⟨100, Unpacking.number?_hundred, by norm_num, le_rfl⟩ number
    next notAbove =>
      exact ⟨IsWithin.isNaN_eq_false, fun number =>
        Unpacking.isWithin_of_not_lt Unpacking.number?_hundred number notBelow notAbove⟩

end Clamping

/-- The load of a slot after a round: what the completion that counts for it carries, moved into
the percentages, or what it was. -/
def WorkerSlot.loadAfter (slot : WorkerSlot) (completions : List Completion) : Binary64 :=
  match slot.completion? completions with
  | some completion => Binary64.clamp 0 100 completion.load
  | none => slot.load

namespace WorkerPool

/-- The loads, in the order of the slots. -/
def loads (pool : WorkerPool) : List Binary64 :=
  pool.slots.map (·.load)

/-- Health reports leave the loads alone. -/
theorem loads_applyReports (gate : TrustGate) (pool : WorkerPool) (reports : List HealthReport) :
    (gate.applyReports pool reports).pool.loads = pool.loads := by
  unfold TrustGate.applyReports
  refine List.foldlRecOn (motive := fun progress : TrustGate.Progress =>
    progress.pool.loads = pool.loads) _ _ rfl ?_
  intro progress same report _
  rcases progress.applyReport_cases report with ⟨samePool, _, _⟩ | ⟨_, _, _, updated, _, _⟩
  · rw [samePool, same]
  · rw [updated, ← same]
    exact map_slots_update _ _ _ fun _ => rfl

/-- Idling workers leaves the loads alone. -/
theorem loads_releaseAll (pool : WorkerPool) (workers : List WorkerId) :
    (pool.releaseAll workers).loads = pool.loads :=
  map_slots_updateAll _ pool workers fun _ => rfl

end WorkerPool

/-- After some completions a slot has the load of the last one that counts. -/
theorem WorkerSlot.load_afterCompletions (slot : WorkerSlot) (smoothing : Binary64)
    (completions : List Completion) (round : Round) :
    (slot.afterCompletions smoothing completions round).load = slot.loadAfter completions := by
  unfold afterCompletions loadAfter
  cases slot.completion? completions <;> rfl

/-- A poll gives each slot the load of the completion that counts for it. -/
theorem Collector.loads_poll {pool : WorkerPool} (sound : pool.Sound) (collector : Collector)
    (completions : List Completion) (round : Round) :
    (collector.poll completions pool round).pool.loads =
      pool.slots.map (·.loadAfter completions) := by
  apply List.ext_getElem?
  intro worker
  rw [WorkerPool.loads, List.getElem?_map, List.getElem?_map]
  change ((collector.poll completions pool round).pool.slot? worker).map _ =
    (pool.slot? worker).map _
  rw [slot?_poll_eq sound.numbered, Option.map_map]
  exact Option.map_congr fun slot _ => slot.load_afterCompletions _ _ _

/-- Taking up work does not matter to the load. -/
theorem WorkerSlot.loadAfter_promote (slot : WorkerSlot) (completions : List Completion) :
    slot.promote.loadAfter completions = slot.loadAfter completions := by
  unfold loadAfter
  rw [completion?_promote, promote_eq]

/-- The policy and the switches do not touch the samples. -/
theorem Adaptation.onRound_fst (adaptation : Adaptation) (utilization : Float)
    (policy other : Policy) (modes otherModes : Modes) :
    (adaptation.onRound utilization policy modes).1 =
      (adaptation.onRound utilization other otherModes).1 := by
  unfold onRound
  dsimp only
  split <;> rfl

/-- Assignments leave the loads alone. -/
theorem Turn.Assigns.loads_eq {turn final : Turn} (assigns : Assigns turn final) :
    final.controller.pool.loads = turn.controller.pool.loads := by
  induction assigns with
  | done => rfl
  | handOver _ _ inductionHypothesis =>
      rw [inductionHypothesis]
      exact WorkerPool.map_slots_update _ _ _ fun _ => rfl

namespace Controller

variable {controller : Controller}

/-- The completions of a round give the slots their loads. -/
theorem Sound.loads_collected (sound : controller.Sound) :
    controller.collected.controller.pool.loads =
      controller.pool.slots.map (·.loadAfter controller.completions) := by
  rw [Controller.collected, Turn.pool_collect]
  have polled := Collector.loads_poll sound.pool.promote
    (controller.beginRound.settleVerdicts (Snapshot.ofReports controller.feed)).controller.collector
    controller.completions (controller.round + 1)
  refine polled.trans ?_
  rw [WorkerPool.promote, List.map_map]
  exact List.map_congr_left fun slot _ => slot.loadAfter_promote _

/-- After the completions a round leaves the loads as they are. -/
theorem loads_capped (controller : Controller) :
    controller.capped.controller.pool.loads = controller.collected.controller.pool.loads := by
  rw [capped, Turn.pool_enforceCap, WorkerPool.loads_releaseAll, vetted, Turn.pool_applyHealth,
    WorkerPool.loads_applyReports, inspected, Turn.pool_detectFaults, WorkerPool.loads_releaseAll]

/-- The loads after a round are those that its completions left. -/
theorem Sound.loads_runRound (sound : controller.Sound) :
    controller.runRound.1.pool.loads =
      controller.pool.slots.map (·.loadAfter controller.completions) := by
  rw [pool_runRound, (Turn.assignAll_assigns sound.selecting.sound).loads_eq, selecting_eq,
    Turn.pool_adapt, loads_capped, sound.loads_collected]

/-- Between two rounds the loads stay as they are. -/
theorem loads_perform (controller : Controller) {operation : Operation}
    (between : operation ≠ .round) :
    (controller.perform operation).1.pool.loads = controller.pool.loads := by
  rw [pool_perform]
  cases operation with
  | round => exact absurd rfl between
  | drain => exact WorkerPool.loads_releaseAll _ _
  | resetSecurity =>
      refine WorkerPool.map_slots_updateAll _ _ _ fun slot => ?_
      unfold TrustGate.restore
      split <;> rfl
  | _ => rfl

/-- All loads are percentages. -/
def HasPercentages (controller : Controller) : Prop :=
  ∀ slot ∈ controller.pool.slots, slot.load.IsPercentage

/-- The completions that count in the next round carry numbers. -/
def HearsNumbers (controller : Controller) : Prop :=
  ∀ slot ∈ controller.pool.slots, ∀ completion ∈ slot.completion? controller.completions,
    completion.load.isNaN = false

instance (controller : Controller) : Decidable controller.HearsNumbers :=
  inferInstanceAs (Decidable (∀ slot ∈ controller.pool.slots,
    ∀ completion ∈ slot.completion? controller.completions, completion.load.isNaN = false))

/-- The mean load that adaptation sees in the next round. -/
def sampledLoad (controller : Controller) : Float :=
  controller.capped.controller.pool.meanActiveLoad

/-- The loads of the slots are those of the pool. -/
theorem hasPercentages_iff (controller : Controller) :
    controller.HasPercentages ↔ ∀ load ∈ controller.pool.loads, load.IsPercentage := by
  simp [HasPercentages, WorkerPool.loads]

/-- A load that was a percentage stays one exactly if no completion that counts carries
something else than a number. -/
theorem isPercentage_loadAfter_iff {slot : WorkerSlot} (percentage : slot.load.IsPercentage)
    (completions : List Completion) :
    (slot.loadAfter completions).IsPercentage ↔
      ∀ completion ∈ slot.completion? completions, completion.load.isNaN = false := by
  unfold WorkerSlot.loadAfter
  cases slot.completion? completions with
  | none => simp [percentage]
  | some completion => simp [Binary64.isPercentage_clamp_iff]

/-- The loads stay percentages in a round exactly if it hears numbers. -/
theorem HasPercentages.loadsAfter_iff (percentages : controller.HasPercentages) :
    (∀ load ∈ controller.pool.slots.map (·.loadAfter controller.completions),
      load.IsPercentage) ↔ controller.HearsNumbers := by
  rw [List.forall_mem_map]
  exact forall₂_congr fun slot present =>
    isPercentage_loadAfter_iff (percentages slot present) controller.completions

/-- A round keeps the loads percentages exactly if it hears only numbers. -/
theorem Sound.hasPercentages_runRound_iff (sound : controller.Sound)
    (percentages : controller.HasPercentages) :
    controller.runRound.1.HasPercentages ↔ controller.HearsNumbers := by
  rw [hasPercentages_iff, sound.loads_runRound, percentages.loadsAfter_iff]

/-- Between rounds no operation makes or spoils a percentage. -/
theorem hasPercentages_perform_iff (controller : Controller) {operation : Operation}
    (between : operation ≠ .round) :
    (controller.perform operation).1.HasPercentages ↔ controller.HasPercentages := by
  rw [hasPercentages_iff, hasPercentages_iff, controller.loads_perform between]

/-- Before the first round there is no load. -/
theorem hasPercentages_start (config : Configuration) : (start config).HasPercentages := by
  rintro slot present
  obtain ⟨number, _, rfl⟩ := List.mem_map.1 present
  have zero : (Binary64.ofFloat 0).IsPercentage := by
    rw [Binary64.IsPercentage, Unpacking.toFloat_ofFloat]
    exact Unpacking.isWithin_zero (by norm_num)
  exact zero

/-- The mean of percentages is a percentage, unless there are too many workers. -/
theorem isWithin_meanActiveLoad {pool : WorkerPool}
    (percentages : ∀ load ∈ pool.loads, load.IsPercentage)
    (few : pool.size ≤ Unpacking.greatestCount) : IsWithin pool.meanActiveLoad 100 := by
  unfold WorkerPool.meanActiveLoad
  dsimp only
  split
  next => exact Unpacking.isWithin_zero (by norm_num)
  next present =>
    refine Unpacking.isWithin_mean ?_ (fun empty => present (List.isEmpty_iff.2 empty)) ?_
    · intro load member
      obtain ⟨slot, active, rfl⟩ := List.mem_map.1 member
      exact percentages slot.load (List.mem_map.2 ⟨slot, List.mem_of_mem_filter active, rfl⟩)
    · rw [List.length_map]
      exact (List.length_filter_le _ _).trans few

/-- A round that hears numbers samples a percentage. -/
theorem Sound.isWithin_sampledLoad (sound : controller.Sound)
    (percentages : controller.HasPercentages) (numbers : controller.HearsNumbers)
    (few : controller.pool.size ≤ Unpacking.greatestCount) :
    IsWithin controller.sampledLoad 100 := by
  refine isWithin_meanActiveLoad ?_ ?_
  · rw [loads_capped, sound.loads_collected]
    exact percentages.loadsAfter_iff.2 numbers
  · have layout : controller.capped.controller.pool.layout = controller.pool.layout := by
      rw [← Turn.pool_adapt, ← selecting_eq, layout_selecting]
    exact (WorkerPool.size_eq_of_layout layout).le.trans few

/-- Adaptation takes the mean load as its sample. -/
theorem Sound.adaptation_runRound_eq (sound : controller.Sound) (policy : Policy)
    (modes : Modes) :
    controller.runRound.1.adaptation =
      (controller.adaptation.onRound controller.sampledLoad policy modes).1 := by
  rw [sound.adaptation_runRound, selecting_eq, controller.capped.adapt_onRound.1,
    adaptation_capped, sampledLoad, Adaptation.onRound_fst]

/-- The rounds of a run start after some of its operations. -/
theorem exists_prefix_of_mem_roundStarts {operations : List Operation} {start : Controller}
    (member : start ∈ controller.roundStarts operations) :
    ∃ seen, seen <+: operations ∧ controller.after seen = start := by
  induction operations generalizing controller with
  | nil => cases member
  | cons operation rest inductionHypothesis =>
      have later (member : start ∈ (controller.perform operation).1.roundStarts rest) :
          ∃ seen, seen <+: operation :: rest ∧ controller.after seen = start := by
        obtain ⟨seen, isPrefix, same⟩ := inductionHypothesis member
        exact ⟨operation :: seen, List.cons_prefix_cons.2 ⟨rfl, isPrefix⟩, same⟩
      by_cases isRound : operation = .round
      · subst isRound
        rw [roundStarts_round, List.mem_cons] at member
        rcases member with rfl | member
        · exact ⟨[], List.nil_prefix, rfl⟩
        · exact later member
      · rw [roundStarts_between controller isRound] at member
        exact later member

end Controller

namespace Lifetime

open Controller

variable {config : Configuration} {history : History} {controller : Controller}

/-- Along a run the loads stay percentages exactly if all rounds hear numbers. -/
theorem hasPercentages_after_iff (lifetime : Lifetime config history controller)
    (percentages : controller.HasPercentages) (operations : List Operation) :
    (∀ seen, seen <+: operations → (controller.after seen).HasPercentages) ↔
      ∀ start ∈ controller.roundStarts operations, start.HearsNumbers := by
  induction operations generalizing history controller with
  | nil =>
      refine iff_of_true (fun seen isPrefix => ?_) (by simp [roundStarts])
      rw [List.prefix_nil.1 isPrefix]
      exact percentages
  | cons operation rest inductionHypothesis =>
      have split : (∀ seen, seen <+: operation :: rest → (controller.after seen).HasPercentages) ↔
          ∀ seen, seen <+: rest →
            ((controller.perform operation).1.after seen).HasPercentages := by
        constructor
        · intro throughout seen isPrefix
          exact throughout (operation :: seen) (List.cons_prefix_cons.2 ⟨rfl, isPrefix⟩)
        · intro throughout seen isPrefix
          cases seen with
          | nil => exact percentages
          | cons first seen =>
              obtain ⟨rfl, isPrefixLater⟩ := List.cons_prefix_cons.1 isPrefix
              exact throughout seen isPrefixLater
      rw [split]
      by_cases isRound : operation = .round
      · subst isRound
        rw [roundStarts_round, List.forall_mem_cons]
        have step := lifetime.ledgered.sound.hasPercentages_runRound_iff percentages
        constructor
        · intro throughout
          have next : (controller.perform .round).1.HasPercentages :=
            throughout [] (List.nil_prefix)
          exact ⟨step.1 next, (inductionHypothesis (lifetime.step .round) next).1 throughout⟩
        · rintro ⟨numbers, later⟩
          exact (inductionHypothesis (lifetime.step .round) (step.2 numbers)).2 later
      · rw [roundStarts_between controller isRound]
        exact inductionHypothesis (lifetime.step operation)
          ((controller.hasPercentages_perform_iff isRound).2 percentages)

end Lifetime

namespace Configuration

open Controller

variable {config : Configuration}

/-- In all states of a run the loads are percentages exactly if every round hears numbers. Then
adaptation samples percentages, unless there are too many workers. -/
theorem keepsPercentages (accepted : config.IsAccepted) (operations : List Operation) :
    ((∀ seen, seen <+: operations → ((Controller.start config).after seen).HasPercentages) ↔
        ∀ start ∈ (Controller.start config).roundStarts operations, start.HearsNumbers) ∧
      ((∀ start ∈ (Controller.start config).roundStarts operations, start.HearsNumbers) →
        config.pool.workers ≤ Unpacking.greatestCount →
        ∀ start ∈ (Controller.start config).roundStarts operations,
          IsWithin start.sampledLoad 100) ∧
      ∀ start ∈ (Controller.start config).roundStarts operations, ∀ policy modes,
        start.runRound.1.adaptation =
          (start.adaptation.onRound start.sampledLoad policy modes).1 := by
  have first : Lifetime config [] (Controller.start config) := accepted.lifetime
  have throughout :=
    first.hasPercentages_after_iff (hasPercentages_start config) operations
  refine ⟨throughout, fun numbers few start member => ?_, fun start member => ?_⟩
  · obtain ⟨seen, isPrefix, rfl⟩ := exists_prefix_of_mem_roundStarts member
    have lifetime := first.after seen
    have size : ((Controller.start config).after seen).pool.size = config.pool.workers :=
      congrArg WorkerPool.Layout.workers lifetime.layout
    exact lifetime.ledgered.sound.isWithin_sampledLoad (throughout.2 numbers seen isPrefix)
      (numbers _ member) (size.le.trans few)
  · obtain ⟨history, lifetime⟩ := first.of_mem_roundStarts start member
    exact lifetime.ledgered.sound.adaptation_runRound_eq

/-- A worker reports a load above a hundred, takes another item, and is sampled with a hundred. -/
theorem keepsPercentages_of_overload :
    let config : Configuration := { pool := { workers := 1 } }
    let operations : List Operation :=
      [.submit ⟨[1]⟩ .high, .round, .receive (.completion ⟨0, 1, .exhausted, .ofFloat 250⟩),
        .submit ⟨[2]⟩ .low, .round, .round]
    let start := Controller.start config
    config.IsAccepted ∧
      (start.roundStarts operations).map (fun round => Binary64.ofFloat round.sampledLoad) =
        [.ofFloat 0, .ofFloat 0, .ofFloat 100] ∧
      (∀ seen, seen <+: operations → (start.after seen).HasPercentages) ∧
      ∀ round ∈ start.roundStarts operations, IsWithin round.sampledLoad 100 := by
  intro config operations start
  have accepted : config.IsAccepted := by
    unfold IsAccepted
    decide +kernel
  have numbers : ∀ round ∈ start.roundStarts operations, round.HearsNumbers := by
    decide +kernel
  obtain ⟨throughout, samples, _⟩ := keepsPercentages accepted operations
  exact ⟨accepted, by decide +kernel, throughout.2 numbers, samples numbers (by decide)⟩

/-- A load that is not a number is kept, and the mean is not a number either once the worker is
at work again. -/
theorem not_forall_percentages :
    ¬∀ config : Configuration, config.IsAccepted → ∀ operations : List Operation,
      (∀ seen, seen <+: operations → ((Controller.start config).after seen).HasPercentages) ∨
        ∀ start ∈ (Controller.start config).roundStarts operations,
          IsWithin start.sampledLoad 100 := by
  intro percentages
  let config : Configuration := { pool := { workers := 1 } }
  let operations : List Operation :=
    [.submit ⟨[1]⟩ .high, .round, .receive (.completion ⟨0, 1, .exhausted, .ofFloat (0 / 0)⟩),
      .submit ⟨[2]⟩ .low, .round, .round]
  have accepted : config.IsAccepted := by
    unfold IsAccepted
    decide +kernel
  rcases percentages config accepted operations with loads | samples
  · have kept : ((Controller.start config).after operations).pool.slots.any (·.load.isNaN) =
        true := by
      decide +kernel
    obtain ⟨slot, present, undefined⟩ := List.any_eq_true.1 kept
    have number := (loads operations (List.prefix_refl _) slot present).isNaN_eq_false
    rw [Unpacking.isNaN_toFloat, undefined] at number
    cases number
  · have sampled : ((Controller.start config).roundStarts operations).any
        (·.sampledLoad.isNaN) = true := by
      decide +kernel
    obtain ⟨start, member, undefined⟩ := List.any_eq_true.1 sampled
    have number := (samples start member).isNaN_eq_false
    rw [undefined] at number
    cases number

end Configuration

end PoolArbiter
