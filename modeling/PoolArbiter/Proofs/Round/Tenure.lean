import PoolArbiter.Proofs.Round.Results
import PoolArbiter.Proofs.Round.Slots

/-!
# The table of slots

An item is submitted before it is handed over, and it is handed over before it is
done, each in a round of its own. `WorkerSlot.Tenured` says this of what a slot holds,
with the slice that its worker searches. The order of the phases carries it: a round
turns the workers of the last round busy before it hands over anything, and what it
hands over was queued when it began.
-/

namespace PoolArbiter

/-- What a slot holds was submitted before the round in which it was handed over. That
round is not yet to come, and it is the current one just if the worker is not busy yet. The
range is the own one of the worker. -/
structure WorkerSlot.Tenured (own : SearchRange) (round : Round) (slot : WorkerSlot) : Prop where
  range : ∀ range ∈ slot.range, range = own
  dated : slot.Dated round
  current : ∀ assigned ∈ slot.assignedRound, slot.state = .assigned ↔ assigned = round
  submitted : ∀ item ∈ slot.item, ∀ assigned ∈ slot.assignedRound,
    item.submittedRound < assigned

namespace WorkerSlot

variable {own : SearchRange} {round : Round} {slot after : WorkerSlot}

/-- A vacant slot has nothing to tell. -/
theorem Vacant.tenured (vacant : slot.Vacant) : slot.Tenured own round where
  range := by simp [vacant.range]
  dated := (steady_dated round).free slot vacant.inactive vacant.assignedRound
  current := by simp [vacant.assignedRound]
  submitted := by simp [vacant.item]

/-- A slot keeps its tenure or is vacant. -/
theorem Tenured.frees (tenured : slot.Tenured own round) (frees : slot.Frees after) :
    after.Tenured own round := by
  cases frees with
  | kept => exact tenured
  | freed _ vacant => exact vacant.tenured

/-- When a round begins, all items were handed over in past rounds. -/
theorem Tenured.promote (tenured : slot.Tenured own round) :
    slot.promote.Tenured own (round + 1) := by
  have busy := slot.state_promote_ne
  rw [promote_eq]
  refine ⟨tenured.range, ?_, ?_, tenured.submitted⟩
  · exact fun assigned given => Nat.le_succ_of_le (tenured.dated assigned given)
  · -- Nobody is assigned any more, and no item is of the new round yet.
    intro assigned given
    have past := tenured.dated assigned given
    exact iff_of_false busy (Nat.ne_of_lt (Nat.lt_succ_of_le past))

/-- An item of a past round is handed over. -/
theorem tenured_take (slot : WorkerSlot) {item : WorkItem} (past : item.submittedRound < round) :
    (slot.take item own round).Tenured own round where
  range := by simp [take]
  dated := (steady_dated round).taken slot item own
  current := by simp [take]
  submitted := by simpa [take] using past

end WorkerSlot

namespace WorkerPool

/-- Every slot is tenured for the slice of its worker. -/
def Tenured (pool : WorkerPool) (round : Round) : Prop :=
  ∀ worker slot, pool.slot? worker = some slot → slot.Tenured (pool.rangeFor worker) round

variable {pool before after : WorkerPool} {round : Round}

/-- Freeing slots keeps the tenures. -/
theorem Tenured.frees (tenured : before.Tenured round) (frees : before.Frees after) :
    after.Tenured round := by
  intro worker later found
  obtain ⟨earlier, present, freed⟩ := frees.slot found
  rw [rangeFor_eq_of_layout frees.layout]
  exact (tenured worker earlier present).frees freed

/-- Taking up work at the start of a round keeps the tenures. -/
theorem Tenured.promote (tenured : pool.Tenured round) : pool.promote.Tenured (round + 1) := by
  intro worker slot found
  rw [slot?_promote] at found
  obtain ⟨earlier, present, rfl⟩ := Option.map_eq_some_iff.1 found
  rw [rangeFor_eq_of_layout (layout_promote pool)]
  exact (tenured worker earlier present).promote

end WorkerPool

/-- An item is admitted in the round in which it was submitted. -/
theorem Step.submittedRound_of_admitted? {step : Step} {item : WorkItem}
    (admitted : step.admitted? = some item) : item.submittedRound = step.round := by
  unfold Step.admitted? at admitted
  split at admitted
  · exact congrArg WorkItem.submittedRound (Option.some.inj admitted).symm
  · cases admitted

namespace Controller

variable {controller : Controller}

/-- What is assigned was queued before the round. -/
theorem Sound.tenured_runRound (sound : controller.Sound)
    (past : ∀ item ∈ controller.live, item.submittedRound ≤ controller.round)
    (tenured : controller.pool.Tenured controller.round) :
    controller.runRound.1.pool.Tenured (controller.round + 1) := by
  have selecting := tenured.promote.frees controller.frees_before_assigning
  have assigns := Turn.assignAll_assigns sound.selecting.sound
  rw [pool_runRound]
  intro worker slot found
  rw [WorkerPool.rangeFor_eq_of_layout assigns.layout_eq]
  rcases assigns.slot_cases sound.selecting.sound found with
    same | ⟨earlier, item, _, _, queued, rfl⟩
  · exact selecting worker slot same
  · -- A queued item was live when the round began, so its submission lies in the past.
    rw [round_selecting]
    have live : item ∈ controller.live := by
      refine sound.selecting.accounted.mem_of_live ?_
      rw [zero_add]
      exact Multiset.mem_add.2 (.inl queued)
    exact earlier.tenured_take (Nat.lt_succ_of_le (past item live))

/-- What is live after an operation was live before, or it was admitted just now. -/
theorem Sound.submitted_perform (sound : controller.Sound)
    (past : ∀ item ∈ controller.live, item.submittedRound ≤ controller.round)
    (operation : Operation) :
    ∀ item ∈ (controller.perform operation).1.live, item.submittedRound ≤ controller.round := by
  intro item member
  rcases Multiset.mem_add.1 ((sound.perform operation).accounted.mem_of_live member) with new | old
  · have admitted := Option.mem_toList.1 (Multiset.mem_coe.1 new)
    exact (Step.submittedRound_of_admitted? admitted).le
  · exact past item old

end Controller

namespace Lifetime

variable {config : Configuration} {history : History} {controller : Controller}

/-- Between two operations every live item was submitted in the current round or before. -/
theorem submitted_le (lifetime : Lifetime config history controller) :
    ∀ item ∈ controller.live, item.submittedRound ≤ controller.round := by
  refine lifetime.invariant_of_sound (motive := fun controller =>
    ∀ item ∈ controller.live, item.submittedRound ≤ controller.round) ?_ ?_ ?_
  · intro item member
    have admitted := (ledgered_start config).accounted.mem_of_live member
    cases Multiset.mem_coe.1 admitted
  · intro before sound past item member
    rw [sound.round_runRound]
    exact Nat.le_succ_of_le (sound.submitted_perform past .round item member)
  · intro before operation between sound past item member
    rw [Controller.round_perform before operation between]
    exact sound.submitted_perform past operation item member

/-- A fresh pool has no tenures. -/
theorem tenured_start (config : Configuration) :
    (Controller.start config).pool.Tenured (Controller.start config).round := by
  intro worker slot found
  obtain ⟨number, _, rfl⟩ := List.mem_map.1 (WorkerPool.mem_of_slot? found)
  exact WorkerSlot.Vacant.tenured ⟨rfl, rfl, rfl, rfl⟩

/-- Throughout a lifetime all tenures are in order. -/
theorem tenured (lifetime : Lifetime config history controller) :
    controller.pool.Tenured controller.round := by
  refine lifetime.invariant (motive := fun _ controller =>
    controller.pool.Tenured controller.round) (tenured_start config) ?_ ?_
  · intro history before prior tenured
    have sound := prior.ledgered.sound
    rw [sound.round_runRound]
    exact sound.tenured_runRound prior.submitted_le tenured
  · intro history before operation between prior tenured
    rw [Controller.round_perform before operation between]
    exact tenured.frees (prior.ledgered.sound.frees_perform operation between)

end Lifetime

section Latency

variable {controller : Controller}

/-- An item that a worker holds has seen its submission and its assignment in two
different rounds. -/
theorem Controller.Sound.submitted_add_two_le (sound : controller.Sound)
    (tenured : controller.pool.Tenured controller.round) {result : WorkResult}
    (published : result ∈ controller.runRound.2.log.results) :
    result.submittedRound + 2 ≤ result.completionRound := by
  have yields := sound.results_runRound result published
  obtain ⟨slot, item, found, holds, closes⟩ := yields.held
  have soundSlot := sound.pool.slot (WorkerPool.mem_of_slot? found)
  have given := soundSlot.assignedRound
  rw [soundSlot.isActive_of_item holds] at given
  obtain ⟨assigned, given⟩ := Option.isSome_iff_exists.1 given
  have tenure := tenured result.worker slot found
  have before : item.submittedRound < assigned := tenure.submitted item holds assigned given
  have past : assigned ≤ controller.round := tenure.dated assigned given
  rw [yields.date, closes.2.2]
  exact Nat.succ_le_succ (Nat.le_trans before past)

/-- The results of a step are those of a round. -/
theorem Controller.mem_results_of_finished {operation : Operation} {result : WorkResult}
    (recorded : .finished result ∈ (controller.stepOf operation).records) :
    result ∈ controller.runRound.2.log.results := by
  unfold Step.records at recorded
  split at recorded
  next report answered =>
    rw [Controller.eq_runRound_of_reported answered] at recorded
    simpa [RoundLog.records] using recorded
  next => simp at recorded
  next => simp at recorded
  next => simp at recorded

/-- Whatever was done in a lifetime, a result comes at least two rounds after the
submission of its item. -/
theorem Lifetime.submitted_add_two_le {config : Configuration} {history : History}
    (lifetime : Lifetime config history controller) :
    ∀ result, .finished result ∈ history.records →
      result.submittedRound + 2 ≤ result.completionRound := by
  induction lifetime with
  | start _ =>
      intro result recorded
      cases recorded
  | @step history before prior operation inductionHypothesis =>
      intro result recorded
      rw [History.records_append, List.mem_append] at recorded
      rcases recorded with old | new
      · exact inductionHypothesis result old
      · have published : .finished result ∈ (before.stepOf operation).records := by
          simpa [History.records] using new
        exact prior.ledgered.sound.submitted_add_two_le prior.tenured
          (Controller.mem_results_of_finished published)

end Latency

section Counting

/-- The rounds since the item was handed over are counted exactly. -/
def WorkerSlot.Counts (round : Round) (slot : WorkerSlot) : Prop :=
  ∀ assigned ∈ slot.assignedRound, assigned + slot.elapsed round = round

/-- A dated slot counts the rounds since its assignment. -/
theorem WorkerSlot.Dated.counts {round : Round} {slot : WorkerSlot} (dated : slot.Dated round) :
    slot.Counts round := by
  intro assigned given
  have elapsed : slot.elapsed round = round - assigned := by
    rw [elapsed, Option.mem_def.1 given]
  rw [elapsed]
  exact Nat.add_sub_of_le (dated assigned given)

/-- The slots of a tenured pool count the rounds since their assignments. -/
theorem WorkerPool.Tenured.counts {pool : WorkerPool} {round : Round}
    (tenured : pool.Tenured round) : pool.Each (WorkerSlot.Counts round) := by
  intro slot member
  obtain ⟨worker, found⟩ := List.getElem?_of_mem member
  exact (tenured worker slot found).dated.counts

/-- The differences of rounds that the next round takes are exact. -/
structure Controller.CountsRounds (controller : Controller) : Prop where
  /-- The age of an item when its completion is taken in, whichever completions were taken
  in before. -/
  completions : ∀ (progress : Collector.Progress) (served : List Completion),
    progress.pool = controller.pool.promote →
      (served.foldl (fun progress completion =>
        progress.accept (controller.round + 1) completion) progress).pool.Each
          (WorkerSlot.Counts (controller.round + 1))
  /-- The age of an item when workers past their time are looked for. -/
  faults : controller.collected.controller.pool.Each (WorkerSlot.Counts (controller.round + 1))
  /-- The time from the submission of an item to its result. -/
  turnaround : ∀ result ∈ controller.runRound.2.log.results,
    result.submittedRound + (result.completionRound - result.submittedRound) =
      result.completionRound

/-- A sound controller counts the rounds of every worker at work. -/
theorem Controller.Sound.countsRounds {controller : Controller} (sound : controller.Sound)
    (tenured : controller.pool.Tenured controller.round) : controller.CountsRounds where
  completions := by
    intro progress served same
    have frees := WorkerPool.Frees.foldl Collector.Progress.pool
      (WorkerPool.frees_accept · (controller.round + 1)) served progress
    rw [same] at frees
    exact (tenured.promote.frees frees).counts
  faults := (tenured.promote.frees controller.frees_collected).counts
  turnaround := by
    intro result published
    have late := sound.submitted_add_two_le tenured published
    exact Nat.add_sub_of_le (Nat.le_of_add_right_le late)

end Counting

/-- The slot of a worker between two operations. -/
structure WorkerSlot.Tabled (pool : WorkerPool) (worker : WorkerId) (round : Round)
    (slot : WorkerSlot) : Prop where
  number : slot.id = worker
  item : slot.isActive = true ↔ slot.item.isSome = true
  range : slot.isActive = true ↔ slot.range.isSome = true
  assignedRound : slot.isActive = true ↔ slot.assignedRound.isSome = true
  settled : slot.state ≠ .faulted
  atWork : slot.isActive = true → ∃ item assigned,
    slot.item = some item ∧ slot.assignedRound = some assigned ∧
      slot.range = some (pool.rangeFor worker) ∧
      item.submittedRound < assigned ∧ assigned ≤ round ∧
      (slot.state = .assigned ↔ assigned = round)

/-- A sound slot has its fields in step with one another. -/
theorem WorkerSlot.Tenured.tabled {pool : WorkerPool} {worker : WorkerId} {round : Round}
    {slot : WorkerSlot} (tenured : slot.Tenured (pool.rangeFor worker) round)
    (sound : slot.Sound) (number : slot.id = worker) : slot.Tabled pool worker round where
  number := number
  item := by rw [sound.item]
  range := by rw [sound.range]
  assignedRound := by rw [sound.assignedRound]
  settled := sound.settled
  atWork := by
    intro active
    obtain ⟨item, holds⟩ := Option.isSome_iff_exists.1 (sound.item.trans active)
    obtain ⟨assigned, given⟩ := Option.isSome_iff_exists.1 (sound.assignedRound.trans active)
    obtain ⟨range, searches⟩ := Option.isSome_iff_exists.1 (sound.range.trans active)
    refine ⟨item, assigned, holds, given, ?_, tenured.submitted item holds assigned given,
      tenured.dated assigned given, tenured.current assigned given⟩
    rw [searches, tenured.range range searches]

/-- Between two operations the fields of every slot agree with each other and with the
current round. So a result comes at least two rounds after the submission of its item,
and no difference of rounds is cut off at zero. -/
theorem Lifetime.slotTable {config : Configuration} {history : History}
    {controller : Controller} (lifetime : Lifetime config history controller) :
    (∀ worker slot, controller.pool.slot? worker = some slot →
      slot.Tabled controller.pool worker controller.round) ∧
      (∀ result, .finished result ∈ history.records →
        result.submittedRound + 2 ≤ result.completionRound) ∧
      controller.CountsRounds := by
  have sound := lifetime.ledgered.sound
  have tenured := lifetime.tenured
  refine ⟨fun worker slot found => ?_, lifetime.submitted_add_two_le,
    sound.countsRounds tenured⟩
  exact (tenured worker slot found).tabled (sound.pool.slot (WorkerPool.mem_of_slot? found))
    (sound.pool.number found)

/-- Two workers and three items: the first item ends in the second round, in which the
third one is handed over. -/
theorem Lifetime.slotTable_after_completion :
    let start := Controller.start { pool := { workers := 2 } }
    let operations : List Operation :=
      [.submit ⟨[1]⟩ .low, .submit ⟨[2]⟩ .low, .round,
        .receive (.completion ⟨0, 1, .exhausted, .ofFloat 0⟩), .submit ⟨[3]⟩ .low, .round]
    let history := start.stepsOf operations
    let controller := start.after operations
    Lifetime { pool := { workers := 2 } } history controller ∧
      controller.pool.slots.map (·.state) = [.assigned, .busy] ∧
      history.records.map (·.work) = [1] ∧
      ((∀ worker slot, controller.pool.slot? worker = some slot →
        slot.Tabled controller.pool worker controller.round) ∧
        (∀ result, .finished result ∈ history.records →
          result.submittedRound + 2 ≤ result.completionRound) ∧
        controller.CountsRounds) := by
  intro start operations history controller
  have lifetime : Lifetime { pool := { workers := 2 } } history controller :=
    (Lifetime.start rfl).after operations
  refine ⟨lifetime, ?_, ?_, lifetime.slotTable⟩ <;> decide +kernel

end PoolArbiter
