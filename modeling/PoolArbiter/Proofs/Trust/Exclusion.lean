import PoolArbiter.Proofs.Round.Results
import PoolArbiter.Proofs.Trust.Gate
import PoolArbiter.Proofs.Worker.Working

/-!
# Exclusion of workers

The gate, the trust in the slots and the state of the slots name the same excluded
workers throughout a lifetime. A worker that a round excludes is handed nothing, and
until the security state is reset no later round mentions it. The reset touches the
excluded workers alone.
-/

namespace PoolArbiter

/-- What a round reports has nothing to do with a worker. -/
structure RoundLog.Avoids (log : RoundLog) (worker : WorkerId) : Prop where
  assignments : ∀ assignment ∈ log.assignments, assignment.worker ≠ worker
  results : ∀ result ∈ log.results, result.worker ≠ worker
  excluded : worker ∉ log.excluded
  faulted : worker ∉ log.faulted
  forcedIdle : worker ∉ log.forcedIdle

/-- A worker that is not trusted is not at work. -/
theorem WorkerPool.Sound.not_works_of_distrusts {pool : WorkerPool} {worker : WorkerId}
    (sound : pool.Sound) (distrusts : pool.Distrusts worker) : ¬pool.Works worker := by
  rintro ⟨slot, found, active⟩
  simp [(sound.vacant_of_untrusted found (distrusts.untrusted found)).1] at active

namespace Turn

variable (turn : Turn) (snapshot : Snapshot)

/-- Collecting changes no one's trust. -/
theorem trust_collect :
    (turn.collect snapshot).controller.pool.trust = turn.controller.pool.trust := by
  rw [pool_collect, WorkerPool.trust_poll]

/-- Looking for late workers changes no one's trust. -/
theorem trust_detectFaults :
    turn.detectFaults.controller.pool.trust = turn.controller.pool.trust := by
  rw [pool_detectFaults, WorkerPool.trust_releaseAll]

/-- Enforcing the cap changes no one's trust. -/
theorem trust_enforceCap :
    (turn.enforceCap snapshot).controller.pool.trust = turn.controller.pool.trust := by
  rw [pool_enforceCap, WorkerPool.trust_releaseAll]

/-- Assignments change no one's trust. -/
theorem Assigns.trust_eq {turn final : Turn} (assigns : Assigns turn final) :
    final.controller.pool.trust = turn.controller.pool.trust := by
  induction assigns with
  | done => rfl
  | handOver _ _ inductionHypothesis =>
      rw [inductionHypothesis]
      exact WorkerPool.trust_update _ _ fun _ => rfl

end Turn

namespace Controller

variable {controller : Controller} {worker : WorkerId}

section Round

/-- Up to the collection everyone's trust stays as it is. -/
theorem trust_collected (controller : Controller) :
    controller.collected.controller.pool.trust = controller.pool.trust := by
  rw [collected, Turn.trust_collect]
  exact WorkerPool.trust_promote _

/-- Up to the search for late workers everyone's trust stays as it is. -/
theorem trust_inspected (controller : Controller) :
    controller.inspected.controller.pool.trust = controller.pool.trust := by
  rw [inspected, Turn.trust_detectFaults, trust_collected]

/-- Between the exclusions and the assignments everyone's trust stays as it is. -/
theorem trust_selecting (controller : Controller) :
    controller.selecting.controller.pool.trust = controller.vetted.controller.pool.trust := by
  rw [selecting, Turn.pool_adapt, Turn.trust_enforceCap]

/-- In a round only the exclusions change anyone's trust. -/
theorem Sound.trust_runRound (sound : controller.Sound) :
    controller.runRound.1.pool.trust = controller.vetted.controller.pool.trust := by
  rw [pool_runRound, (Turn.assignAll_assigns sound.selecting.sound).trust_eq, trust_selecting]

/-- The health reports of a round, applied to the gate and the pool. -/
theorem excludes_vetted (lists : controller.gate.Lists controller.pool) :
    TrustGate.Excludes controller.inspected.controller.pool
      (controller.inspected.controller.gate.applyReports controller.inspected.controller.pool
        (Snapshot.ofReports controller.feed).health) := by
  refine TrustGate.excludes_applyReports (fun worker => ?_) _
  rw [excluded_inspected, lists worker]
  exact WorkerPool.distrusts_congr (trust_inspected controller).symm

/-- A round keeps the excluded workers listed. -/
theorem Sound.lists_runRound (sound : controller.Sound)
    (lists : controller.gate.Lists controller.pool) :
    controller.runRound.1.gate.Lists controller.runRound.1.pool := by
  intro worker
  have gate := congrArg Oversight.gate (Turn.oversight_applyHealth controller.inspected
    (Snapshot.ofReports controller.feed))
  simp only [Turn.oversight, Oversight.of] at gate
  rw [sound.gate_runRound, Controller.vetted, gate,
    WorkerPool.distrusts_congr sound.trust_runRound, Controller.vetted, Turn.pool_applyHealth]
  exact (excludes_vetted lists).lists worker

/-- After a round those are not trusted that were not trusted before or were excluded
in the round. -/
theorem Sound.distrusts_runRound (sound : controller.Sound)
    (lists : controller.gate.Lists controller.pool) (worker : WorkerId) :
    controller.runRound.1.pool.Distrusts worker ↔
      controller.pool.Distrusts worker ∨ worker ∈ controller.runRound.2.log.excluded := by
  rw [WorkerPool.distrusts_congr sound.trust_runRound, Controller.vetted, Turn.pool_applyHealth,
    sound.excluded_runRound, (excludes_vetted lists).distrusts worker,
    WorkerPool.distrusts_congr (trust_inspected controller)]

/-- A worker that is not trusted at the end of a round was handed nothing in it. -/
theorem Sound.unassigned_runRound (sound : controller.Sound)
    (distrusts : controller.runRound.1.pool.Distrusts worker) :
    ∀ assignment ∈ controller.runRound.2.log.assignments, assignment.worker ≠ worker := by
  rintro assignment listed rfl
  obtain ⟨⟨slot, found, eligible⟩, _⟩ := sound.assignment_runRound listed
  rw [WorkerPool.distrusts_congr (sound.trust_runRound.trans (trust_selecting controller).symm)]
    at distrusts
  simp [WorkerSlot.isEligible, distrusts.untrusted found] at eligible

/-- A round has nothing to do with a worker that is not trusted when it begins. -/
theorem Sound.avoids_runRound (sound : controller.Sound)
    (lists : controller.gate.Lists controller.pool)
    (distrusts : controller.pool.Distrusts worker) :
    controller.runRound.2.log.Avoids worker where
  assignments :=
    sound.unassigned_runRound ((sound.distrusts_runRound lists worker).2 (.inl distrusts))
  results := by
    rintro result published rfl
    obtain ⟨slot, item, found, holds, _⟩ := (sound.results_runRound result published).held
    simp [(sound.pool.vacant_of_untrusted found (distrusts.untrusted found)).2] at holds
  excluded := by
    rw [sound.excluded_runRound]
    intro listed
    refine (excludes_vetted lists).trusted worker listed ?_
    exact (WorkerPool.distrusts_congr (trust_inspected controller)).2 distrusts
  faulted := by
    rw [sound.faulted_runRound]
    intro listed
    obtain ⟨slot, overdue, rfl⟩ := List.mem_map.1 listed
    obtain ⟨present, late⟩ := List.mem_filter.1 overdue
    have soundCollected := sound.collected.sound
    refine soundCollected.not_works_of_distrusts
      ((WorkerPool.distrusts_congr (trust_collected controller)).2 distrusts)
      ⟨slot, soundCollected.found present, ?_⟩
    simp only [Turn.isOverdue, Bool.and_eq_true] at late
    exact late.1
  forcedIdle := by
    -- Those above the cap are at work after the health reports.
    rw [sound.forcedIdle_eq_excess]
    intro listed
    have soundVetted := sound.vetted.sound
    have working := soundVetted.mem_activeDescending.1 (List.mem_of_mem_take listed)
    refine soundVetted.not_works_of_distrusts ?_ working
    have kept := (sound.distrusts_runRound lists worker).2 (.inl distrusts)
    exact (WorkerPool.distrusts_congr sound.trust_runRound).1 kept

end Round

section Operations

/-- Between two rounds only the reset changes the gate or the trust. -/
theorem trust_perform (controller : Controller) (operation : Operation)
    (between : operation ≠ .round) (kept : operation ≠ .resetSecurity) :
    (controller.perform operation).1.gate = controller.gate ∧
      (controller.perform operation).1.pool.trust = controller.pool.trust := by
  have gate := congrArg Oversight.gate (oversight_perform controller operation {})
  rw [pool_perform]
  cases operation with
  | round => exact absurd rfl between
  | resetSecurity => exact absurd rfl kept
  | drain => exact ⟨gate, WorkerPool.trust_releaseAll _ _⟩
  | _ => exact ⟨gate, rfl⟩

/-- What the reset of the security state does. -/
structure Restores (before after : Controller) : Prop where
  /-- The excluded workers are trusted again and idle; the other slots stay. -/
  slot : ∀ worker, after.pool.slot? worker =
    if before.gate.excluded.contains worker then
      (before.pool.slot? worker).map fun slot => { slot with trusted := true, state := .idle }
    else before.pool.slot? worker
  /-- No worker is out of service. -/
  inService : ∀ slot ∈ after.pool.slots, slot.trusted = true ∧ slot.state ≠ .unavailable
  /-- The gate is without violations, lockdown and excluded workers. -/
  gate : after.gate =
    { before.gate with violations := 0, lockdown := false, excluded := .empty }
  /-- Nothing else changes. -/
  rest : after =
    { before with
      gate := after.gate
      pool := { before.pool with slots := after.pool.slots } }

/-- The security reset changes nothing of the pool but its slots. -/
theorem pool_resetSecurity_eq (controller : Controller) :
    controller.resetSecurity.pool =
      { controller.pool with slots := controller.resetSecurity.pool.slots } := by
  have same : controller.resetSecurity.pool.layout = controller.pool.layout := by
    rw [pool_resetSecurity, WorkerPool.layout_updateAll]
  simp only [WorkerPool.layout, WorkerPool.Layout.mk.injEq] at same
  dsimp only
  rw [← same.2.1, ← same.2.2]

/-- The security reset restores the excluded slots and leaves the others alone. -/
theorem Sound.slot?_resetSecurity (sound : controller.Sound)
    (lists : controller.gate.Lists controller.pool) (worker : WorkerId) :
    controller.resetSecurity.pool.slot? worker =
      if controller.gate.excluded.contains worker then
        (controller.pool.slot? worker).map fun slot => { slot with trusted := true, state := .idle }
      else controller.pool.slot? worker := by
  refine (TrustGate.slot?_reset controller.gate controller.pool worker).trans ?_
  split
  next excluded =>
    -- An excluded slot is out of service, which is what restoring it tests.
    obtain ⟨slot, found, unavailable⟩ :=
      sound.pool.distrusts_iff_unavailable.1 ((lists worker).1 excluded)
    simp [found, TrustGate.restore, unavailable]
  next => rfl

/-- After the security reset everyone is trusted. -/
theorem Sound.trusted_resetSecurity (sound : controller.Sound)
    (lists : controller.gate.Lists controller.pool) (worker : WorkerId) :
    ¬controller.resetSecurity.pool.Distrusts worker := by
  rintro ⟨slot, found, untrusted⟩
  rw [sound.slot?_resetSecurity lists] at found
  split at found
  next =>
    obtain ⟨earlier, _, rfl⟩ := Option.map_eq_some_iff.1 found
    cases untrusted
  next spared => exact spared ((lists worker).2 ⟨slot, found, untrusted⟩)

/-- The security reset restores every excluded worker. -/
theorem Sound.restores_resetSecurity (sound : controller.Sound)
    (lists : controller.gate.Lists controller.pool) :
    controller.Restores controller.resetSecurity where
  slot := sound.slot?_resetSecurity lists
  inService := by
    have soundAfter := sound.resetSecurity.sound.pool
    intro slot member
    have trusted : slot.trusted = true := by
      by_contra untrusted
      exact sound.trusted_resetSecurity lists slot.id
        ⟨slot, soundAfter.found member, Bool.not_eq_true _ ▸ untrusted⟩
    exact ⟨trusted, (soundAfter.slot member).trusted.1 trusted⟩
  gate := rfl
  rest := by
    rw [← pool_resetSecurity_eq]
    rfl

/-- Every operation keeps the list of the gate right. -/
theorem Sound.lists_perform (sound : controller.Sound)
    (lists : controller.gate.Lists controller.pool) (operation : Operation) :
    (controller.perform operation).1.gate.Lists (controller.perform operation).1.pool := by
  by_cases round : operation = .round
  · subst round
    exact sound.lists_runRound lists
  intro worker
  by_cases reset : operation = .resetSecurity
  · subst reset
    exact iff_of_false Bool.false_ne_true (sound.trusted_resetSecurity lists worker)
  · obtain ⟨gate, trust⟩ := trust_perform controller operation round reset
    rw [gate, lists worker]
    exact WorkerPool.distrusts_congr trust.symm

/-- Only the reset brings an excluded worker back. -/
theorem Sound.distrusts_perform (sound : controller.Sound)
    (lists : controller.gate.Lists controller.pool) (distrusts : controller.pool.Distrusts worker)
    {operation : Operation} (kept : operation ≠ .resetSecurity) :
    (controller.perform operation).1.pool.Distrusts worker := by
  by_cases round : operation = .round
  · subst round
    exact (sound.distrusts_runRound lists worker).2 (.inl distrusts)
  · exact (WorkerPool.distrusts_congr
      (trust_perform controller operation round kept).2).2 distrusts

/-- As long as the security state is not reset, no round has to do with a worker that
is not trusted. -/
theorem Sound.avoids_stepsOf (sound : controller.Sound)
    (lists : controller.gate.Lists controller.pool) (distrusts : controller.pool.Distrusts worker)
    {operations : List Operation} (kept : .resetSecurity ∉ operations) :
    ∀ step ∈ controller.stepsOf operations,
      ∀ report, step.answer = .reported report → report.log.Avoids worker := by
  -- Soundness, the list of the gate and the distrust are carried from step to step.
  induction operations generalizing controller with
  | nil =>
      intro step member
      cases member
  | cons operation rest inductionHypothesis =>
      rw [List.mem_cons, not_or] at kept
      intro step member report reported
      rcases List.mem_cons.1 member with rfl | later
      · rw [eq_runRound_of_reported reported]
        exact sound.avoids_runRound lists distrusts
      · exact inductionHypothesis (sound.perform operation).sound
          (sound.lists_perform lists operation)
          (sound.distrusts_perform lists distrusts (Ne.symm kept.1)) kept.2 step later report
          reported

end Operations

section Statement

/-- The gate, the trust in the slots and the states of the slots name the same workers,
which hold nothing. -/
structure AgreesOnExclusion (controller : Controller) : Prop where
  untrusted : ∀ worker, controller.gate.excluded.contains worker = true ↔
    ∃ slot, controller.pool.slot? worker = some slot ∧ slot.trusted = false
  unavailable : ∀ worker, controller.gate.excluded.contains worker = true ↔
    ∃ slot, controller.pool.slot? worker = some slot ∧ slot.state = .unavailable
  vacant : ∀ worker, controller.gate.excluded.contains worker = true →
    ∀ slot, controller.pool.slot? worker = some slot →
      slot.isActive = false ∧ slot.item = none

/-- A worker that the next round excludes is handed nothing in that round, and no
later round has to do with it until the security state is reset. -/
def ExcludesUntilReset (controller : Controller) : Prop :=
  ∀ worker ∈ controller.runRound.2.log.excluded,
    (∀ assignment ∈ controller.runRound.2.log.assignments, assignment.worker ≠ worker) ∧
      ∀ operations : List Operation, .resetSecurity ∉ operations →
        ∀ step ∈ controller.runRound.1.stepsOf operations,
          ∀ report, step.answer = .reported report → report.log.Avoids worker

/-- A sound controller that lists the excluded workers agrees with its slots about them. -/
theorem Sound.agreesOnExclusion (sound : controller.Sound)
    (lists : controller.gate.Lists controller.pool) : controller.AgreesOnExclusion where
  untrusted := lists
  unavailable := fun worker => (lists worker).trans sound.pool.distrusts_iff_unavailable
  vacant := by
    intro worker listed slot found
    exact sound.pool.vacant_of_untrusted found (((lists worker).1 listed).untrusted found)

/-- Excluded workers stay excluded until the reset. -/
theorem Sound.excludesUntilReset (sound : controller.Sound)
    (lists : controller.gate.Lists controller.pool) : controller.ExcludesUntilReset := by
  intro worker excluded
  have distrusts := (sound.distrusts_runRound lists worker).2 (.inr excluded)
  refine ⟨sound.unassigned_runRound distrusts, fun operations kept => ?_⟩
  exact (sound.perform .round).sound.avoids_stepsOf (sound.lists_runRound lists) distrusts kept

end Statement

end Controller

namespace Lifetime

variable {config : Configuration} {history : History} {controller : Controller}

/-- A fresh controller excludes no one. -/
theorem lists_start (config : Configuration) :
    (Controller.start config).gate.Lists (Controller.start config).pool := by
  intro worker
  refine iff_of_false Bool.false_ne_true ?_
  rintro ⟨slot, found, untrusted⟩
  obtain ⟨number, _, rfl⟩ := List.mem_map.1 (WorkerPool.mem_of_slot? found)
  cases untrusted

/-- Throughout a lifetime the gate lists the workers that are not trusted. -/
theorem lists (lifetime : Lifetime config history controller) :
    controller.gate.Lists controller.pool :=
  lifetime.invariant_of_sound (lists_start config)
    (fun sound lists => sound.lists_perform lists .round)
    fun operation _ sound lists => sound.lists_perform lists operation

/-- Between two operations the gate, the trust and the slots agree on who is excluded.
Whom a round excludes stays out of service until the security state is reset, and the
reset brings back exactly the excluded workers. -/
theorem exclusion (lifetime : Lifetime config history controller) :
    controller.AgreesOnExclusion ∧ controller.ExcludesUntilReset ∧
      controller.Restores controller.resetSecurity := by
  have sound := lifetime.ledgered.sound
  have lists := lifetime.lists
  exact ⟨sound.agreesOnExclusion lists, sound.excludesUntilReset lists,
    sound.restores_resetSecurity lists⟩

/-- A worker that was handed an item is tampered with: the next round excludes it, and
the other worker takes the item. -/
theorem exclusion_after_tampering :
    let start := Controller.start { pool := { workers := 2 } }
    let operations : List Operation :=
      [.submit ⟨[1]⟩ .low, .round, .receive (.health ⟨0, true, 0⟩)]
    let controller := start.after operations
    Lifetime { pool := { workers := 2 } } (start.stepsOf operations) controller ∧
      controller.pool.worksInFlight = [1] ∧
      controller.runRound.2.log.excluded = [0] ∧
      controller.runRound.2.log.assignments.map (·.worker) = [1] ∧
      (controller.AgreesOnExclusion ∧ controller.ExcludesUntilReset ∧
        controller.Restores controller.resetSecurity) := by
  intro start operations controller
  have lifetime : Lifetime { pool := { workers := 2 } } (start.stepsOf operations) controller :=
    (Lifetime.start rfl).after operations
  refine ⟨lifetime, ?_, ?_, ?_, lifetime.exclusion⟩ <;> decide +kernel

end Lifetime

end PoolArbiter
