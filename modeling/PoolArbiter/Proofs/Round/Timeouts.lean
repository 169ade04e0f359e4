import PoolArbiter.Proofs.Collection.Integrity
import PoolArbiter.Proofs.Floats.Bits

/-!
# Timeouts

After the completions of a round a worker is still at work just if none of them names its
item; its slot is then the one of the round before. Of these workers a round takes back
those past their time, and no others, so that between two rounds nobody is past it.
`Controller.TimesOut` says this of the next round.
-/

namespace PoolArbiter

/-- A worker at work was handed its item in a past round or in the current one, and has not
taken more rounds than it may. -/
def WorkerSlot.InTime (settings : PoolSettings) (round : Round) (slot : WorkerSlot) : Prop :=
  slot.isActive = true →
    ∃ assigned, slot.assignedRound = some assigned ∧ assigned ≤ round ∧
      round - assigned ≤ Turn.timeout settings slot

namespace WorkerSlot

variable {slot : WorkerSlot} {settings : PoolSettings} {round : Round}

/-- A worker is late if it is at work and its assignment is longer ago than its time. -/
theorem isOverdue_iff (sound : slot.Sound) :
    Turn.isOverdue settings round slot = true ↔
      slot.isActive = true ∧ ∃ assigned, slot.assignedRound = some assigned ∧
        Turn.timeout settings slot < round - assigned := by
  simp only [Turn.isOverdue, Bool.and_eq_true, decide_eq_true_eq]
  refine and_congr_right fun active => ?_
  obtain ⟨assigned, given⟩ := Option.isSome_iff_exists.1 (sound.assignedRound.trans active)
  simp [elapsed, given]

/-- A worker that is not late is in its time. -/
theorem Sound.inTime (sound : slot.Sound) (dated : slot.Dated round)
    (settled : Turn.isOverdue settings round slot = false) : slot.InTime settings round := by
  intro active
  obtain ⟨assigned, given⟩ := Option.isSome_iff_exists.1 (sound.assignedRound.trans active)
  refine ⟨assigned, given, dated assigned given, ?_⟩
  by_contra late
  have overdue := (isOverdue_iff sound).2 ⟨active, assigned, given, Nat.lt_of_not_le late⟩
  rw [settled] at overdue
  cases overdue

/-- A completion that names the worker and its item counts, or another one does. -/
theorem completion?_ne_none {completions : List Completion} {completion : Completion}
    {item : WorkItem} (active : slot.isActive = true) (holds : slot.item = some item)
    (arrived : completion ∈ completions) (worker : completion.worker = slot.id)
    (work : completion.work = item.id) : slot.completion? completions ≠ none := by
  intro none
  refine List.find?_eq_none.1 none completion arrived (isNamedBy_iff.2 ⟨worker, ?_⟩)
  rw [activeWork?, if_pos active, holds, Option.map_some, work]

end WorkerSlot

namespace Turn

variable {turn : Turn} {worker : WorkerId}

/-- Rounds are enough for a worker if they are not fewer than the minimum and not fewer than the
product of its mean and the factor. -/
theorem timeout_le_iff {settings : PoolSettings} {slot : WorkerSlot}
    {product : Unpacking.Extended} {rounds : Nat}
    (stands : Unpacking.number? (slot.latency.toFloat * settings.faultTimeoutFactor) =
      some product) (small : rounds < Binary64.greatestWord) :
    timeout settings slot ≤ rounds ↔
      settings.faultMinRounds ≤ rounds ∧ product ≤ ((rounds : ℚ) : WithTop ℚ) := by
  rw [timeout, max_le_iff, Binary64.ceilWord_le_iff stands small, and_comm]

/-- The late workers by their slots. -/
theorem mem_overdue (sound : turn.controller.pool.Sound) :
    worker ∈ turn.overdue ↔ ∃ slot assigned,
      turn.controller.pool.slot? worker = some slot ∧ slot.isActive = true ∧
        slot.assignedRound = some assigned ∧
        timeout turn.controller.config.pool slot < turn.controller.round - assigned := by
  simp only [overdue, List.mem_map, List.mem_filter]
  constructor
  · rintro ⟨slot, ⟨present, late⟩, rfl⟩
    obtain ⟨active, assigned, given, past⟩ :=
      (WorkerSlot.isOverdue_iff (sound.slot present)).1 late
    exact ⟨slot, assigned, sound.found present, active, given, past⟩
  · rintro ⟨slot, assigned, found, active, given, past⟩
    have present := WorkerPool.mem_of_slot? found
    exact ⟨slot, ⟨present, (WorkerSlot.isOverdue_iff (sound.slot present)).2
      ⟨active, assigned, given, past⟩⟩, sound.number found⟩

/-- The late workers are listed in ascending order. -/
theorem pairwise_overdue (sound : turn.controller.pool.Sound) :
    turn.overdue.Pairwise (· < ·) := by
  rw [overdue, List.pairwise_map]
  exact sound.pairwise_slots.sublist List.filter_sublist

/-- No late worker is listed twice. -/
theorem nodup_overdue (sound : turn.controller.pool.Sound) : turn.overdue.Nodup :=
  (pairwise_overdue sound).imp Nat.ne_of_lt

end Turn

namespace Controller

variable {history : History} {controller : Controller} {worker : WorkerId} {slot : WorkerSlot}

/-- Without a completion of its item a worker stays at work. -/
theorem Sound.slot?_collected (sound : controller.Sound)
    (distinct : controller.pool.works.Nodup) (found : controller.pool.slot? worker = some slot)
    (unnamed : slot.completion? controller.completions = none) :
    controller.collected.controller.pool.slot? worker = some slot.promote := by
  have untouched : worker ∉ controller.collected.log.results.map (·.worker) := by
    intro listed
    obtain ⟨result, published, isWorker⟩ := List.mem_map.1 listed
    rw [← Multiset.mem_coe, sound.results_collected distinct, WorkerPool.mem_gather] at published
    obtain ⟨other, present, yields⟩ := published
    obtain ⟨completion, counts, rest⟩ := Option.bind_eq_some_iff.1 yields
    obtain ⟨item, _, given⟩ := Option.bind_eq_some_iff.1 rest
    obtain rfl := Option.some.inj given
    have same : other.id = worker := isWorker
    obtain rfl : other = slot :=
      Option.some.inj ((sound.pool.found present).symm.trans (same ▸ found))
    rw [unnamed] at counts
    cases counts
  have polled := congrArg RoundLog.Findings.results
    (Turn.findings_collect controller.settled (Snapshot.ofReports controller.feed))
  have results : controller.collected.log.results =
      (controller.settled.controller.collector.poll controller.completions
        controller.pool.promote (controller.round + 1)).yield.results := polled
  rw [results] at untouched
  have kept := (Collector.slot?_poll _ _ _ _ untouched).trans (WorkerPool.slot?_promote _ _)
  rw [found, Option.map_some] at kept
  rw [Controller.collected, Turn.pool_collect]
  exact kept

/-- After a completion of its item a worker is not at work any more. -/
theorem Mindful.not_works_collected (mindful : controller.Mindful history)
    (found : controller.pool.slot? worker = some slot)
    (named : slot.completion? controller.completions ≠ none) :
    ¬ controller.collected.controller.pool.Works worker := by
  have sound := mindful.ledgered.sound
  have present := WorkerPool.mem_of_slot? found
  obtain ⟨completion, counts⟩ := Option.ne_none_iff_exists'.1 named
  obtain ⟨item, _, holds, _⟩ := (sound.pool.slot present).holds_of_completion? counts
  rintro ⟨later, stays, active⟩
  -- The slot would still hold the item, of which the round has published a result.
  obtain ⟨earlier, before, frees⟩ := controller.frees_collected.slot stays
  obtain rfl := frees.eq_of_isActive active
  rw [WorkerPool.slot?_promote, found, Option.map_some, Option.some.injEq] at before
  have held : item ∈ controller.collected.controller.pool.held := by
    refine WorkerPool.mem_gather.2 ⟨later, WorkerPool.mem_of_slot? stays, ?_⟩
    rw [← before, WorkerSlot.promote_eq]
    exact holds
  have alive : item ∈ 0 + (controller.collected.controller.queues.contents +
      controller.collected.controller.pool.held) := by
    rw [zero_add]
    exact Multiset.mem_add.2 (.inr held)
  obtain ⟨result, listed, about⟩ : ∃ result ∈ controller.pool.gather
      (·.result? controller.completions controller.pendingVerdict? (controller.round + 1)),
      result.work = item.id :=
    ⟨_, WorkerPool.mem_gather.2 ⟨slot, present, mindful.result?_eq present counts holds _⟩, rfl⟩
  rw [← sound.results_collected mindful.ledgered.nodup_works, Multiset.mem_coe] at listed
  exact sound.collected.accounted.work_ne mindful.ledgered.distinct_live item alive _
    (List.mem_append_left _ (List.mem_map_of_mem listed)) about

/-- Who is still at work after the completions, and in which slot. -/
theorem Mindful.working_collected (mindful : controller.Mindful history) {later : WorkerSlot} :
    controller.collected.controller.pool.slot? worker = some later ∧ later.isActive = true ↔
      ∃ slot, controller.pool.slot? worker = some slot ∧ slot.isActive = true ∧
        slot.completion? controller.completions = none ∧ later = slot.promote := by
  constructor
  · rintro ⟨stays, active⟩
    obtain ⟨earlier, before, frees⟩ := controller.frees_collected.slot stays
    obtain rfl := frees.eq_of_isActive active
    rw [WorkerPool.slot?_promote] at before
    obtain ⟨slot, found, rfl⟩ := Option.map_eq_some_iff.1 before
    refine ⟨slot, found, slot.isActive_promote ▸ active, ?_, rfl⟩
    by_contra named
    exact mindful.not_works_collected found named ⟨_, stays, active⟩
  · rintro ⟨slot, found, active, unnamed, rfl⟩
    exact ⟨mindful.ledgered.sound.slot?_collected mindful.ledgered.nodup_works found unnamed,
      slot.isActive_promote.trans active⟩

/-- What is past its time, and what becomes of it in the next round. -/
structure TimesOut (settings : PoolSettings) (controller : Controller) : Prop where
  /-- Between two rounds every worker at work is in time. -/
  inTime : ∀ slot ∈ controller.pool.slots, slot.InTime settings controller.round
  /-- After the completions those workers are still at work of which no completion names the
  item, each with what it holds since before the round. -/
  working : ∀ worker later,
    controller.collected.controller.pool.slot? worker = some later ∧ later.isActive = true ↔
      ∃ slot, controller.pool.slot? worker = some slot ∧ slot.isActive = true ∧
        slot.completion? controller.completions = none ∧ later = slot.promote
  /-- The faults of the round are the workers still at work then that are past their time. -/
  faulted : ∀ worker, worker ∈ controller.runRound.2.log.faulted ↔
    ∃ slot assigned, controller.collected.controller.pool.slot? worker = some slot ∧
      slot.isActive = true ∧ slot.assignedRound = some assigned ∧
      Turn.timeout settings slot < controller.round + 1 - assigned
  ascending : controller.runRound.2.log.faulted.Pairwise (· < ·)
  /-- A completion of its item saves a worker. -/
  completed : ∀ worker slot item completion, controller.pool.slot? worker = some slot →
    slot.item = some item → completion ∈ controller.completions →
    completion.worker = worker → completion.work = item.id →
      worker ∉ controller.runRound.2.log.faulted

/-- If all workers are in time between rounds, the next round takes back the late items. -/
theorem Mindful.timesOut (mindful : controller.Mindful history) {settings : PoolSettings}
    (configured : controller.config.pool = settings)
    (inTime : ∀ slot ∈ controller.pool.slots, slot.InTime settings controller.round) :
    controller.TimesOut settings := by
  subst configured
  have sound := mindful.ledgered.sound
  have faulted : ∀ worker, worker ∈ controller.runRound.2.log.faulted ↔
      ∃ slot assigned, controller.collected.controller.pool.slot? worker = some slot ∧
        slot.isActive = true ∧ slot.assignedRound = some assigned ∧
        Turn.timeout controller.config.pool slot < controller.round + 1 - assigned := by
    intro worker
    rw [sound.faulted_runRound, Turn.mem_overdue sound.collected.sound, config_collected,
      round_collected]
  refine ⟨inTime, fun _ _ => mindful.working_collected, faulted, ?_, ?_⟩
  · rw [sound.faulted_runRound]
    exact Turn.pairwise_overdue sound.collected.sound
  · intro worker slot item completion found holds arrived isWorker isWork late
    obtain ⟨later, _, stays, active, _⟩ := (faulted worker).1 late
    have soundSlot := sound.pool.slot (WorkerPool.mem_of_slot? found)
    have named := WorkerSlot.completion?_ne_none (soundSlot.isActive_of_item holds) holds arrived
      (isWorker.trans (sound.pool.number found).symm) isWork
    exact mindful.not_works_collected found named ⟨later, stays, active⟩

end Controller

namespace Lifetime

variable {config : Configuration} {history : History} {controller : Controller}

/-- Between two rounds no worker is past its time. -/
theorem inTime (lifetime : Lifetime config history controller) :
    ∀ slot ∈ controller.pool.slots, slot.InTime config.pool controller.round := by
  have settled : controller.pool.Each fun slot =>
      Turn.isOverdue controller.config.pool controller.round slot = false := by
    refine lifetime.invariant_of_sound (motive := fun controller => controller.pool.Each fun slot =>
      Turn.isOverdue controller.config.pool controller.round slot = false) ?_ ?_ ?_
    · intro slot member
      obtain ⟨worker, _, rfl⟩ := List.mem_map.1 member
      rfl
    · intro before sound _
      rw [sound.config_runRound, sound.round_runRound]
      exact sound.inTime_runRound
    · intro before operation between sound settled
      rw [Controller.config_perform before operation between,
        Controller.round_perform before operation between]
      exact (steady_inTime _ _).frees settled (sound.frees_perform operation between)
  intro slot member
  rw [← lifetime.config_eq]
  exact (lifetime.ledgered.sound.pool.slot member).inTime (lifetime.dated slot member)
    (settled slot member)

/-- No worker stays at work past its time, and no worker is taken for late before it. -/
theorem punctual (lifetime : Lifetime config history controller) :
    controller.TimesOut config.pool :=
  lifetime.mindful.timesOut (congrArg Configuration.pool lifetime.config_eq) lifetime.inTime

/-- Three workers were handed an item each two rounds ago. The first of them may take four rounds,
since it took one round for the item before. The others may take one, and a completion waits for
the last one. -/
theorem punctual_after_completion :
    let config : Configuration := { pool := { workers := 3, faultMinRounds := 1 } }
    let start := Controller.start config
    let operations : List Operation :=
      [.submit ⟨[1]⟩ .low, .round, .receive (.completion ⟨0, 1, .exhausted, .ofFloat 0⟩),
        .submit ⟨[2]⟩ .low, .submit ⟨[3]⟩ .low, .submit ⟨[4]⟩ .low, .round, .round,
        .receive (.completion ⟨2, 3, .exhausted, .ofFloat 0⟩)]
    let history := start.stepsOf operations
    let controller := start.after operations
    Lifetime config history controller ∧
      controller.round = 3 ∧
      controller.pool.slots.map (·.assignedRound) = [some 2, some 2, some 2] ∧
      controller.pool.slots.map (·.latency) = [.ofFloat 1, .ofFloat 0, .ofFloat 0] ∧
      controller.pool.slots.map (Turn.timeout config.pool) = [4, 1, 1] ∧
      controller.runRound.2.log.faulted = [1] ∧
      controller.TimesOut config.pool := by
  intro config start operations history controller
  have created : Controller.create { pool := { workers := 3, faultMinRounds := 1 } } = .ok start :=
    rfl
  have lifetime : Lifetime config history controller :=
    (Lifetime.start created).after operations
  refine ⟨lifetime, ?_, ?_, ?_, ?_, ?_, lifetime.punctual⟩ <;> decide +kernel

end Lifetime

end PoolArbiter
