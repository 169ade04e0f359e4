import PoolArbiter.Proofs.Termination.Round

/-!
# Every item comes to an end

While nothing is submitted, the items that are live come to an end within a number
of rounds that their number and the longest time of a worker bound, whatever the
workers report. Each round that leaves an item live leaves a worker at work, and
every worker at work uses up one round of what is outstanding.
-/

namespace PoolArbiter

/-- An operation that submits nothing and reports no tampering. -/
def Operation.IsQuiet : Operation → Prop
  | .submit _ _ => False
  | .receive report => report.IsQuiet
  | _ => True

instance : ∀ operation : Operation, Decidable operation.IsQuiet
  | .receive report => inferInstanceAs (Decidable report.IsQuiet)
  | .submit _ _ => .isFalse id
  | .setModes _ | .setBudget _ | .round | .withdraw _ | .drain | .resetSecurity =>
      .isTrue trivial

/-- What a round leaves behind if items are to end: no item went from a slot back to
the queues to save power or heat, some worker is trusted, some worker may be at
work, and no worker may take longer than the limit. -/
structure Favourable (limit : Nat) (controller : Controller) (report : RoundReport) : Prop where
  unforced : controller.config.thermal.reclaim = .drop ∨ report.log.forcedIdle = []
  trusted : ∃ slot ∈ controller.pool.slots, slot.trusted = true
  cap : 1 ≤ controller.governor.state.activeCap
  timeouts : ∀ slot ∈ controller.pool.slots,
    Turn.timeout controller.config.pool slot ≤ limit

instance (limit : Nat) (controller : Controller) (report : RoundReport) :
    Decidable (Favourable limit controller report) :=
  decidable_of_iff
    ((controller.config.thermal.reclaim = .drop ∨ report.log.forcedIdle = []) ∧
      (∃ slot ∈ controller.pool.slots, slot.trusted = true) ∧
      1 ≤ controller.governor.state.activeCap ∧
      ∀ slot ∈ controller.pool.slots, Turn.timeout controller.config.pool slot ≤ limit)
    ⟨fun ⟨unforced, trusted, cap, timeouts⟩ => ⟨unforced, trusted, cap, timeouts⟩,
      fun favourable => ⟨favourable.unforced, favourable.trusted, favourable.cap,
        favourable.timeouts⟩⟩

namespace Controller

/-- Quiet operations after which every round was favourable. -/
def Unwinds (limit : Nat) : Controller → List Operation → Prop
  | _, [] => True
  | controller, operation :: rest =>
      operation.IsQuiet ∧
        (operation.isRound = true →
          Favourable limit controller.runRound.1 controller.runRound.2) ∧
        Unwinds limit (controller.perform operation).1 rest

instance unwindsDecidable (limit : Nat) :
    ∀ (controller : Controller) (operations : List Operation),
      Decidable (controller.Unwinds limit operations)
  | _, [] => .isTrue trivial
  | controller, operation :: rest =>
      have := unwindsDecidable limit (controller.perform operation).1 rest
      inferInstanceAs (Decidable (operation.IsQuiet ∧
        (operation.isRound = true →
          Favourable limit controller.runRound.1 controller.runRound.2) ∧
        Unwinds limit (controller.perform operation).1 rest))

variable {controller : Controller} {limit : Nat}

section Waiting

/-- The tasks a round later, before anything has changed. -/
theorem tasks_beginRound (controller : Controller) :
    controller.beginRound.controller.tasks =
      controller.queues.contents.map (·, 0) + controller.pool.tasks (controller.round + 1) := by
  have same : controller.pool.promote.tasks (controller.round + 1) =
      controller.pool.tasks (controller.round + 1) :=
    WorkerPool.gather_promote fun slot => by
      unfold WorkerSlot.promote
      split <;> rfl
  rw [← same]
  rfl

/-- With each round the workers at work have had their items for one round more. -/
theorem tasks_succ {pool : WorkerPool} {round : Round} (sound : pool.Sound)
    (dated : pool.Each (WorkerSlot.Dated round)) :
    pool.tasks (round + 1) = (pool.tasks round).map fun task => (task.1, task.2 + 1) := by
  rw [WorkerPool.tasks, WorkerPool.tasks, WorkerPool.gather, WorkerPool.gather,
    Multiset.map_coe, List.map_filterMap]
  congr 1
  apply List.filterMap_congr
  intro slot member
  cases holds : slot.item with
  | none => rfl
  | some item =>
      have active := (sound.slot member).isActive_of_item holds
      have assignedRound := (sound.slot member).assignedRound
      rw [active] at assignedRound
      obtain ⟨assigned, given⟩ := Option.isSome_iff_exists.1 assignedRound
      have past : assigned ≤ round := dated slot member assigned given
      simp only [Option.map_some, WorkerSlot.elapsed, given, Option.some.injEq, Prod.mk.injEq,
        true_and]
      exact Nat.succ_sub past

/-- A round of waiting costs one round of allowance for every worker at work, if no
worker has had its item for longer than the limit. -/
theorem Sound.outstanding_beginRound (sound : controller.Sound)
    (dated : controller.pool.Each (WorkerSlot.Dated controller.round))
    (spent : ∀ task ∈ controller.pool.tasks controller.round, task.2 ≤ limit) :
    controller.beginRound.controller.outstanding limit + controller.pool.activeCount =
      controller.outstanding limit := by
  have cost : ∀ task ∈ controller.pool.tasks controller.round,
      controller.allowance limit (task.1, task.2 + 1) + 1 = controller.allowance limit task := by
    intro task member
    have bounded : task.2 ≤ limit := spent task member
    unfold allowance
    dsimp only
    omega
  have working : controller.pool.activeCount =
      (controller.pool.tasks controller.round).card := by
    rw [← sound.pool.card_held, ← WorkerPool.map_fst_tasks _ controller.round,
      Multiset.card_map]
  have allowances : controller.beginRound.controller.outstanding limit =
      (controller.beginRound.controller.tasks.map (controller.allowance limit)).sum := rfl
  rw [allowances, outstanding, tasks_beginRound, tasks, tasks_succ sound.pool dated, working,
    Multiset.map_add, Multiset.map_add, Multiset.sum_add, Multiset.sum_add, Multiset.map_map,
    add_assoc, ← Multiset.map_congr rfl cost, Multiset.sum_map_add]
  simp

end Waiting

section Working

/-- A worker that is not past its time has had its item for at most the limit. -/
theorem spent_of_inTime {settings : PoolSettings} {round : Round} {pool : WorkerPool}
    (sound : pool.Sound)
    (inTime : pool.Each fun slot => Turn.isOverdue settings round slot = false)
    (timeouts : ∀ slot ∈ pool.slots, Turn.timeout settings slot ≤ limit) :
    ∀ task ∈ pool.tasks round, task.2 ≤ limit := by
  intro task member
  obtain ⟨slot, present, shown⟩ := WorkerPool.mem_gather.1 member
  obtain ⟨item, holds, rfl⟩ := Option.map_eq_some_iff.1 shown
  have active := (sound.slot present).isActive_of_item holds
  have punctual := inTime slot present
  have bounded := timeouts slot present
  simp only [Turn.isOverdue, active, Bool.true_and, decide_eq_false_iff_not, not_lt] at punctual
  exact punctual.trans bounded

/-- A favourable round that leaves an item live leaves a worker at work. -/
theorem Sound.activeCount_runRound (sound : controller.Sound)
    (favourable : Favourable limit controller.runRound.1 controller.runRound.2)
    (live : controller.runRound.1.live ≠ 0) : 0 < controller.runRound.1.pool.activeCount := by
  have pool := sound.runRound.sound
  rcases sound.exhausted_runRound with full | empty | busy
  · exact Nat.lt_of_lt_of_le favourable.cap full
  · rw [Controller.live, empty, zero_add] at live
    rw [← pool.card_held]
    exact Multiset.card_pos.2 live
  · obtain ⟨slot, member, trusted⟩ := favourable.trusted
    have active : slot.isActive = true := by
      by_contra inactive
      have eligible := (pool.slot member).isEligible_of_inactive trusted
        (Bool.eq_false_iff.2 inactive)
      exact List.filter_eq_nil_iff.1 busy slot member eligible
    exact List.countP_pos_iff.2 ⟨slot, member, active⟩

end Working

section Steps

/-- A favourable round costs one round of allowance for every worker at work. -/
theorem Sound.outstanding_round (sound : controller.Sound)
    (distinct : (controller.live.map (·.id)).Nodup)
    (dated : controller.pool.Each (WorkerSlot.Dated controller.round))
    (favourable : Favourable limit controller.runRound.1 controller.runRound.2) :
    controller.runRound.1.beginRound.controller.outstanding limit +
        controller.runRound.1.pool.activeCount ≤
      controller.vetted.controller.outstanding limit := by
  have custody := sound.runRound
  have after : controller.runRound.1.Sound := ⟨custody.sound, custody.sorted⟩
  have datedAfter := sound.dated_runRound dated
  have inTime := sound.inTime_runRound
  have unforced := favourable.unforced
  have timeouts := favourable.timeouts
  rw [sound.config_runRound] at unforced timeouts
  rw [← sound.round_runRound] at datedAfter inTime
  rw [after.outstanding_beginRound datedAfter (spent_of_inTime after.pool inTime timeouts)]
  exact sound.outstanding_runRound limit distinct unforced

/-- A quiet operation admits nothing. -/
theorem Sound.accounted_perform (sound : controller.Sound) {operation : Operation}
    (quiet : operation.IsQuiet) :
    Accounted controller.live (controller.perform operation).1.live
      (controller.stepOf operation).records := by
  have accounted := (sound.perform operation).accounted
  have nothing : (controller.stepOf operation).admitted? = none := by
    cases operation with
    | submit _ _ => exact quiet.elim
    | _ => rfl
  rw [nothing] at accounted
  simpa using accounted

/-- A change between rounds, seen at the start of the next round. -/
theorem shrinks_beginRound {next : Controller} {records : List Record}
    (queues : next.queues.contents ≤ controller.queues.contents)
    (pool : next.pool.tasks (controller.round + 1) ≤ controller.pool.tasks (controller.round + 1))
    (round : next.round = controller.round)
    (retries : ∀ work, (∀ record ∈ records, record.work ≠ work) →
      next.faultRetries.find? work = controller.faultRetries.find? work) :
    Shrinks controller.beginRound.controller [] next.beginRound.controller records where
  tasks := by
    rw [tasks_beginRound, tasks_beginRound, round]
    exact add_le_add (Multiset.map_le_map queues) pool
  noted := List.nil_subset _
  retries := retries

/-- Taking the items from the workers at work shrinks the tasks. -/
theorem shrinks_drainWorkers (controller : Controller) (workers : List WorkerId) :
    Shrinks controller.beginRound.controller []
      (workers.foldl drainWorker (controller, [])).1.beginRound.controller
      ((workers.foldl drainWorker (controller, [])).2.map .dropped) := by
  apply List.foldlRecOn (motive := fun progress : Controller × List DropRecord =>
    Shrinks controller.beginRound.controller [] progress.1.beginRound.controller
      (progress.2.map Record.dropped))
  · exact .refl _ _
  · rintro ⟨current, drops⟩ shrinks worker _
    have fewer : (current.pool.release worker .idle).tasks (current.round + 1) ≤
        current.pool.tasks (current.round + 1) :=
      WorkerPool.tasks_update_le (fun _ => rfl) _
    unfold drainWorker
    dsimp only
    split
    next =>
      refine shrinks.trans ⟨?_, List.Subset.refl _, fun _ _ => rfl⟩
      rw [tasks_beginRound, tasks_beginRound]
      exact add_le_add (le_refl _) fewer
    next item holds =>
      refine shrinks.trans ⟨?_, ?_, ?_⟩
      · rw [tasks_beginRound, tasks_beginRound]
        exact add_le_add (le_refl _) fewer
      · rw [List.map_append]
        exact List.subset_append_left _ _
      · intro work unrecorded
        have different : item.id ≠ work :=
          unrecorded (.dropped (item.dropRecord .drained current.round)) (by simp)
        exact (KeyMap.find?_erase _ _ _).trans (if_neg (Ne.symm different))

/-- Between rounds only items that are recorded lose their tasks. -/
theorem shrinks_perform {operation : Operation} (quiet : operation.IsQuiet)
    (between : operation ≠ .round) :
    Shrinks controller.beginRound.controller []
      (controller.perform operation).1.beginRound.controller
      (controller.stepOf operation).records := by
  cases operation with
  | submit _ _ => exact quiet.elim
  | receive _ | setModes _ | setBudget _ =>
      exact shrinks_beginRound (le_refl _) (le_refl _) rfl fun _ _ => rfl
  | round => exact absurd rfl between
  | withdraw work =>
      unfold stepOf Controller.perform Controller.withdraw
      dsimp only
      split
      next => exact .refl _ _
      next item queues withdrawn =>
        refine shrinks_beginRound ?_ (le_refl _) rfl ?_
        · rw [AdmissionQueues.contents_withdraw? withdrawn]
          exact Multiset.le_cons_self _ _
        · intro work unrecorded
          have different : item.id ≠ work :=
            unrecorded (.dropped (item.dropRecord .withdrawn controller.round)) (by
              simp [Step.records])
          exact (KeyMap.find?_erase _ _ _).trans (if_neg (Ne.symm different))
  | drain =>
      have drained := shrinks_drainWorkers controller controller.pool.activeDescending.reverse
      exact drained.trans ⟨le_refl _, List.Subset.refl _, fun _ _ => rfl⟩
  | resetSecurity =>
      refine shrinks_beginRound (le_refl _) ?_ rfl fun _ _ => rfl
      apply List.foldlRecOn (motive := fun pool : WorkerPool =>
        pool.tasks (controller.round + 1) ≤ controller.pool.tasks (controller.round + 1))
      · exact le_refl _
      · intro pool fewer worker _
        cases found : pool.slot? worker with
        | none =>
            rw [WorkerPool.update_of_slot?_eq_none found]
            exact fewer
        | some slot =>
            have same : (pool.update worker TrustGate.restore).tasks (controller.round + 1) =
                pool.tasks (controller.round + 1) :=
              WorkerPool.gather_of_eq found rfl
            exact same.trans_le fewer

/-- Between rounds nothing becomes outstanding unless something is submitted. -/
theorem Sound.outstanding_perform (sound : controller.Sound) (limit : Nat)
    (distinct : (controller.live.map (·.id)).Nodup) {operation : Operation}
    (quiet : operation.IsQuiet) (between : operation ≠ .round) :
    (controller.perform operation).1.beginRound.controller.outstanding limit ≤
      controller.beginRound.controller.outstanding limit := by
  refine (shrinks_perform quiet between).outstanding_le limit ?_
  have live : (controller.perform operation).1.beginRound.controller.live =
      (controller.perform operation).1.live :=
    congrArg ((controller.perform operation).1.queues.contents + ·)
      (WorkerPool.held_promote (controller.perform operation).1.pool)
  rw [live]
  exact (sound.accounted_perform quiet).work_ne distinct

/-- The feed stays quiet. -/
theorem Sound.quiet_perform (sound : controller.Sound) {operation : Operation}
    (quiet : operation.IsQuiet) (calm : ∀ report ∈ controller.feed, report.IsQuiet) :
    ∀ report ∈ (controller.perform operation).1.feed, report.IsQuiet := by
  cases operation with
  | submit _ _ => exact quiet.elim
  | receive report =>
      intro sent member
      rcases List.mem_append.1 member with old | new
      · exact calm sent old
      · rw [List.mem_singleton.1 new]
        exact quiet
  | round =>
      intro report member
      rw [Controller.perform, sound.feed_runRound] at member
      cases member
  | withdraw work =>
      unfold Controller.perform Controller.withdraw
      dsimp only
      split <;> exact calm
  | drain =>
      apply List.foldlRecOn (motive := fun progress : Controller × List DropRecord =>
        ∀ report ∈ progress.1.feed, report.IsQuiet)
      · exact calm
      · intro progress calm worker _
        unfold drainWorker
        dsimp only
        split <;> exact calm
  | setModes _ | setBudget _ | resetSecurity => exact calm

end Steps

end Controller

namespace Lifetime

open Controller

variable {config : Configuration} {history : History} {controller : Controller} {limit : Nat}
  {operations : List Operation}

/-- What is live after quiet operations was live before them. -/
theorem live_after_le (lifetime : Lifetime config history controller)
    (unwinds : controller.Unwinds limit operations) :
    (controller.after operations).live.card ≤ controller.live.card := by
  induction operations generalizing history controller with
  | nil => exact Nat.le_refl _
  | cons operation rest inductionHypothesis =>
      obtain ⟨quiet, _, later⟩ := unwinds
      have accounted := lifetime.ledgered.sound.accounted_perform quiet
      exact (inductionHypothesis (lifetime.step operation) later).trans accounted.card_le

/-- A round that leaves items live has a worker at work at its end. -/
theorem activeCount_of_live (lifetime : Lifetime config history controller)
    (favourable : Favourable limit controller.runRound.1 controller.runRound.2)
    {rest : List Operation} (later : (controller.perform .round).1.Unwinds limit rest)
    (live : ((controller.perform .round).1.after rest).live ≠ 0) :
    0 < controller.runRound.1.pool.activeCount := by
  refine lifetime.ledgered.sound.activeCount_runRound favourable ?_
  intro ended
  have fewer := (lifetime.step .round).live_after_le later
  rw [← perform_round] at ended
  rw [ended, Multiset.card_zero, Nat.le_zero, Multiset.card_eq_zero] at fewer
  exact live fewer

/-- As long as items stay live, rounds are paid for by what is outstanding. -/
theorem rounds_le_outstanding (lifetime : Lifetime config history controller)
    (unwinds : controller.Unwinds limit operations)
    (calm : ∀ report ∈ controller.feed, report.IsQuiet)
    (live : (controller.after operations).live ≠ 0) :
    operations.countP Operation.isRound ≤ controller.beginRound.controller.outstanding limit := by
  induction operations generalizing history controller with
  | nil => exact Nat.zero_le _
  | cons operation rest inductionHypothesis =>
      obtain ⟨quiet, favourable, later⟩ := unwinds
      rw [after_cons] at live
      have sound := lifetime.ledgered.sound
      have distinct := lifetime.ledgered.distinct_live
      have remaining := inductionHypothesis (lifetime.step operation) later
        (sound.quiet_perform quiet calm) live
      rw [List.countP_cons]
      by_cases isRound : operation = .round
      · subst isRound
        have cost := sound.outstanding_round distinct lifetime.dated (favourable rfl)
        have calmed := sound.outstanding_vetted limit distinct calm
        have working := lifetime.activeCount_of_live (favourable rfl) later live
        rw [perform_round] at remaining
        rw [Operation.isRound, if_pos rfl]
        omega
      · have kept := sound.outstanding_perform limit distinct quiet isRound
        rw [Operation.isRound_eq_false isRound, if_neg Bool.false_ne_true, Nat.add_zero]
        exact remaining.trans kept

/-- As long as items stay live, there are no more rounds than two attempts at every
item take, even if reports of tampering wait in the feed. -/
theorem rounds_le_of_live (lifetime : Lifetime config history controller)
    (unwinds : controller.Unwinds limit operations)
    (live : (controller.after operations).live ≠ 0) :
    operations.countP Operation.isRound ≤ 2 * controller.live.card * (limit + 1) := by
  induction operations generalizing history controller with
  | nil => exact Nat.zero_le _
  | cons operation rest inductionHypothesis =>
      obtain ⟨quiet, favourable, later⟩ := unwinds
      rw [after_cons] at live
      have sound := lifetime.ledgered.sound
      have distinct := lifetime.ledgered.distinct_live
      rw [List.countP_cons]
      by_cases isRound : operation = .round
      · subst isRound
        -- The first round empties the feed, so from then on no tampering is reported.
        have feed : ∀ report ∈ (controller.perform .round).1.feed, report.IsQuiet := by
          simp [perform_round, sound.feed_runRound]
        have remaining := (lifetime.step .round).rounds_le_outstanding later feed live
        have cost := sound.outstanding_round distinct lifetime.dated (favourable rfl)
        have working := lifetime.activeCount_of_live (favourable rfl) later live
        have total := controller.vetted.controller.outstanding_le_card limit
        have fewer := sound.live_vetted_le
        have bound : 2 * controller.vetted.controller.live.card * (limit + 1) ≤
            2 * controller.live.card * (limit + 1) := by gcongr
        rw [perform_round] at remaining
        rw [Operation.isRound, if_pos rfl]
        omega
      · have fewer := (sound.accounted_perform quiet).card_le
        have remaining := inductionHypothesis (lifetime.step operation) later live
        rw [Operation.isRound_eq_false isRound, if_neg Bool.false_ne_true, Nat.add_zero]
        exact remaining.trans (by gcongr)

/-- Every item comes to an end: while nothing is submitted and the rounds are
favourable, two attempts at every live item are the longest that items stay live. -/
theorem terminates (lifetime : Lifetime config history controller)
    (unwinds : controller.Unwinds limit operations)
    (enough : 2 * (controller.queues.totalDepth + controller.pool.activeCount) * (limit + 1) + 1 ≤
      operations.countP Operation.isRound) :
    (controller.after operations).queues.totalDepth = 0 ∧
      (controller.after operations).pool.activeCount = 0 := by
  have count : ∀ {history controller}, Lifetime config history controller →
      controller.live.card = controller.queues.totalDepth + controller.pool.activeCount := by
    intro history controller lifetime
    rw [Controller.live, Multiset.card_add, AdmissionQueues.card_contents,
      lifetime.ledgered.sound.pool.card_held]
  have ended : (controller.after operations).live = 0 := by
    by_contra live
    have rounds := lifetime.rounds_le_of_live unwinds live
    rw [count lifetime] at rounds
    exact absurd (enough.trans rounds) (Nat.not_succ_le_self _)
  have none := count (lifetime.after operations)
  rw [ended, Multiset.card_zero] at none
  omega

/-- Two items, one worker that never answers, and one round of time: every item is
tried twice and dropped. -/
theorem terminates_of_silence :
    let start := Controller.start { pool := { workers := 1, faultMinRounds := 1 } }
    let before : List Operation := [.submit ⟨[1]⟩ .low, .submit ⟨[2]⟩ .high]
    let rounds : List Operation := List.replicate 9 .round
    (start.after before).Unwinds 1 rounds ∧ (start.after before).queues.totalDepth = 2 ∧
      ((start.after before).after rounds).queues.totalDepth = 0 ∧
      ((start.after before).after rounds).pool.activeCount = 0 := by
  intro start before rounds
  have lifetime : Lifetime { pool := { workers := 1, faultMinRounds := 1 } }
      (start.stepsOf before) (start.after before) := (Lifetime.start rfl).after before
  have unwinds : (start.after before).Unwinds 1 rounds := by decide +kernel
  exact ⟨unwinds, by decide +kernel, lifetime.terminates unwinds (by decide +kernel)⟩

end Lifetime

end PoolArbiter
