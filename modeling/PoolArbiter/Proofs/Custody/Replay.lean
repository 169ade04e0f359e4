import PoolArbiter.Proofs.Custody.Recall
import PoolArbiter.Proofs.Round.Named

/-!
# Replaying the records

Whoever sees no more than what rounds and drains give back can tell at any time which
worker has which item and range: `History.holdings` replays the records, and
`Controller.holdings` reads the same off the slots. Before it assigns items a round
only frees slots, and it logs every item that leaves one; the assignments put the
others into slots that are free.
-/

namespace PoolArbiter

/-- The item and the range that each worker has, if it is at work. -/
abbrev Holdings := WorkerId → Option (WorkId × SearchRange)

namespace Holdings

/-- The holder of an item has it no more. -/
def remove (holdings : Holdings) (work : WorkId) : Holdings :=
  fun worker => (holdings worker).filter fun held => held.1 != work

/-- A worker takes an item. -/
def add (holdings : Holdings) (assignment : Assignment) : Holdings :=
  fun worker =>
    if worker = assignment.worker then some (assignment.work, assignment.range)
    else holdings worker

/-- The holdings after what a step gave back. -/
def replay (holdings : Holdings) (step : Step) : Holdings :=
  match step.answer with
  | .reported report => report.log.assignments.foldl add (report.log.departed.foldl remove holdings)
  | .drained drops => (drops.map (·.work)).foldl remove holdings
  | _ => holdings

/-- Removing some work takes it from every worker that holds it. -/
theorem foldl_remove (works : List WorkId) (holdings : Holdings) (worker : WorkerId) :
    works.foldl remove holdings worker =
      (holdings worker).filter fun held => !works.contains held.1 := by
  induction works generalizing holdings with
  | nil => cases held : holdings worker <;> simp [held, Option.filter]
  | cons work rest inductionHypothesis =>
      rw [List.foldl_cons, inductionHypothesis, remove, Option.filter_filter]
      congr 1
      funext held
      rw [List.contains_cons, Bool.not_or]
      rfl

end Holdings

/-- The holdings after all records of a history, with none at the start. -/
def History.holdings (history : History) : Holdings :=
  history.foldl Holdings.replay fun _ => none

/-- The item at work in a slot, with its range. -/
def WorkerSlot.holding? (slot : WorkerSlot) : Option (WorkId × SearchRange) := do
  let work ← slot.activeWork?
  let range ← slot.range
  return (work, range)

/-- The holdings of the slots of a pool. -/
def WorkerPool.holdings (pool : WorkerPool) : Holdings :=
  fun worker => (pool.slot? worker).bind (·.holding?)

/-- The holdings of a controller. -/
def Controller.holdings (controller : Controller) : Holdings :=
  controller.pool.holdings

namespace WorkerSlot

variable {slot : WorkerSlot}

/-- A worker holds the number of its item. -/
theorem item_of_holding? {work : WorkId} {range : SearchRange}
    (holding : slot.holding? = some (work, range)) :
    ∃ item, slot.item = some item ∧ item.id = work := by
  unfold holding? activeWork? at holding
  simp only [Option.bind_eq_bind, Option.bind_eq_some_iff] at holding
  obtain ⟨named, active, _, _, paired⟩ := holding
  obtain ⟨rfl, _⟩ := Prod.mk.inj (Option.some.inj paired)
  split at active
  · exact Option.map_eq_some_iff.1 active
  · cases active

/-- A worker that is not at work holds nothing. -/
theorem holding?_eq_none (inactive : slot.isActive = false) : slot.holding? = none := by
  simp [holding?, activeWork?, inactive]

/-- A slot that turns busy holds what it held. -/
theorem holding?_promote (slot : WorkerSlot) : slot.promote.holding? = slot.holding? := by
  unfold promote
  split
  next assigned =>
    simp [holding?, activeWork?, isActive, assigned, WorkerState.isActive]
  next => rfl

end WorkerSlot

namespace WorkerPool

variable {pool before after : WorkerPool} {worker rival : WorkerId} {item same : WorkItem}

/-- Taking up assigned work changes no holding. -/
theorem holdings_promote (pool : WorkerPool) : pool.promote.holdings = pool.holdings := by
  funext worker
  rw [holdings, slot?_promote, holdings]
  cases pool.slot? worker with
  | none => rfl
  | some slot => exact slot.holding?_promote

/-- What a worker of a pool holds is the number of its item. -/
theorem exists_item_of_holdings {work : WorkId} {range : SearchRange}
    (holds : pool.holdings worker = some (work, range)) :
    ∃ item, pool.itemOf? worker = some item ∧ item.id = work := by
  obtain ⟨slot, found, holding⟩ := Option.bind_eq_some_iff.1 holds
  obtain ⟨item, held, named⟩ := WorkerSlot.item_of_holding? holding
  exact ⟨item, by rw [itemOf?, found, Option.bind_some, held], named⟩

/-- A worker whose item is still held has kept it. -/
theorem Frees.slot?_eq_of_mem_works (frees : before.Frees after) (distinct : before.works.Nodup)
    (holds : before.itemOf? worker = some item) (stays : item.id ∈ after.works) :
    after.slot? worker = before.slot? worker := by
  obtain ⟨slot, member, same, kept, equal⟩ := mem_works.1 stays
  obtain ⟨rival, found⟩ := List.getElem?_of_mem member
  replace found : after.slot? rival = some slot := found
  obtain ⟨earlier, present, freed⟩ := frees.slot found
  cases freed with
  | kept =>
      have other : before.itemOf? rival = some same := by
        rw [itemOf?, present, Option.bind_some, kept]
      rw [← holder_unique distinct holds other equal, found, present]
  | freed _ vacant => simp [vacant.item] at kept

/-- A worker keeps its holding or loses it. -/
theorem Frees.holdings_cases (frees : before.Frees after) (worker : WorkerId) :
    after.holdings worker = before.holdings worker ∨ after.holdings worker = none := by
  unfold WorkerPool.holdings
  cases found : after.slot? worker with
  | none => exact .inr rfl
  | some later =>
      obtain ⟨earlier, present, freed⟩ := frees.slot found
      rw [present]
      cases freed with
      | kept => exact .inl rfl
      | freed _ vacant => exact .inr (WorkerSlot.holding?_eq_none vacant.inactive)

/-- If all that leaves the slots is named, taking back what is named leaves the holdings
of the slots. -/
theorem Frees.foldl_remove {works : List WorkId} (frees : before.Frees after)
    (distinct : before.works.Nodup) (balance : before.works = after.works + works) :
    works.foldl Holdings.remove before.holdings = after.holdings := by
  have apart := distinct
  rw [balance, Multiset.nodup_add] at apart
  funext worker
  rw [Holdings.foldl_remove]
  have cases := frees.holdings_cases worker
  cases holding : before.holdings worker with
  | none =>
      rw [holding, or_self] at cases
      rw [cases, Option.filter_none]
  | some pair =>
      obtain ⟨work, range⟩ := pair
      obtain ⟨item, holds, rfl⟩ := exists_item_of_holdings holding
      by_cases stays : item.id ∈ after.works
      · have unlisted : item.id ∉ works := Multiset.disjoint_left.1 apart.2.2 stays
        have same := frees.slot?_eq_of_mem_works distinct holds stays
        rw [WorkerPool.holdings, same, ← WorkerPool.holdings, holding]
        simpa [Option.filter] using unlisted
      · have taken := mem_works_of_holds holds
        rw [balance, Multiset.mem_add, Multiset.mem_coe] at taken
        have listed := taken.resolve_left stays
        have gone : after.holdings worker = none := by
          refine cases.resolve_left fun same => stays ?_
          obtain ⟨other, held, equal⟩ := exists_item_of_holdings (same.trans holding)
          exact equal ▸ mem_works_of_holds held
        rw [gone]
        simpa [Option.filter] using listed

end WorkerPool

/-- A slot was just handed what an assignment names. -/
structure WorkerSlot.Carries (slot : WorkerSlot) (assignment : Assignment) : Prop where
  state : slot.state = .assigned
  range : slot.range = some assignment.range
  item : ∃ item, slot.item = some item ∧ item.id = assignment.work ∧
    item.tier = assignment.tier ∧ item.payload = assignment.payload

/-- Some assignments are those of the slots that were just handed an item, each once. -/
structure WorkerPool.Carries (pool : WorkerPool) (assignments : List Assignment) : Prop where
  carried : ∀ assignment, assignment ∈ assignments ↔
    ∃ slot, pool.slot? assignment.worker = some slot ∧ slot.Carries assignment
  listed : ∀ worker slot, pool.slot? worker = some slot → slot.state = .assigned →
    worker ∈ assignments.map (·.worker)
  workers : (assignments.map (·.worker)).Nodup

namespace WorkerPool

variable {pool before after : WorkerPool} {assignments : List Assignment}

/-- At the start of a round nobody has just been handed an item. -/
theorem Frees.carries_nil (frees : before.promote.Frees after) : after.Carries [] := by
  have unassigned : ∀ worker slot, after.slot? worker = some slot → slot.state ≠ .assigned := by
    intro worker slot found assigned
    obtain ⟨earlier, present, freed⟩ := frees.slot found
    cases freed with
    | kept =>
        rw [slot?_promote] at present
        obtain ⟨old, _, rfl⟩ := Option.map_eq_some_iff.1 present
        exact old.state_promote_ne assigned
    | freed _ vacant =>
        have inactive := vacant.inactive
        simp [WorkerSlot.isActive, assigned, WorkerState.isActive] at inactive
  refine ⟨fun assignment => ?_, fun worker slot found assigned => ?_, .nil⟩
  · simp only [List.not_mem_nil, false_iff, not_exists, not_and]
    exact fun slot found carries => unassigned _ slot found carries.state
  · exact absurd assigned (unassigned worker slot found)

/-- If no two workers hold items of the same number, no item is assigned twice. -/
theorem Carries.nodup_works (carries : pool.Carries assignments) (distinct : pool.works.Nodup) :
    (assignments.map (·.work)).Nodup := by
  refine carries.workers.of_map.map_on ?_
  intro first listedFirst second listedSecond same
  obtain ⟨slot, found, carriesFirst⟩ := (carries.carried first).1 listedFirst
  obtain ⟨other, foundOther, carriesSecond⟩ := (carries.carried second).1 listedSecond
  obtain ⟨item, held, named, _⟩ := carriesFirst.item
  obtain ⟨rival, heldRival, namedRival, _⟩ := carriesSecond.item
  have holds : pool.itemOf? first.worker = some item := by
    rw [itemOf?, found, Option.bind_some, held]
  have holdsRival : pool.itemOf? second.worker = some rival := by
    rw [itemOf?, foundOther, Option.bind_some, heldRival]
  have worker := holder_unique distinct holds holdsRival (by rw [named, namedRival, same])
  exact List.inj_on_of_nodup_map carries.workers listedFirst listedSecond worker.symm

end WorkerPool

namespace Turn

variable {turn final : Turn} {selection : Policy.Selection}

/-- The slot of a worker that takes an item carries the assignment and no other one. -/
theorem eq_assignmentOf_iff (turn : Turn) {assignment : Assignment}
    (same : selection.worker = assignment.worker) (slot : WorkerSlot) (round : Round) :
    assignment = turn.assignmentOf selection ↔
      (slot.take selection.item (turn.controller.pool.rangeFor selection.worker) round).Carries
        assignment := by
  constructor
  · rintro rfl
    exact ⟨rfl, rfl, selection.item, rfl, rfl, rfl, rfl⟩
  · intro carries
    obtain ⟨item, taken, work, tier, payload⟩ := carries.item
    obtain rfl := Option.some.inj taken
    have range := Option.some.inj carries.range
    cases assignment
    simp_all [assignmentOf]

/-- A pool that carries its assignments carries the next one as well. -/
theorem carries_handOver (sound : turn.controller.pool.Sound)
    (selected : turn.selection? = some selection)
    (carries : turn.controller.pool.Carries turn.log.assignments) :
    (turn.handOver selection).controller.pool.Carries
      (turn.handOver selection).log.assignments := by
  obtain ⟨chosen, found, eligible, _⟩ := eligible_of_selection? sound selected
  have idle : chosen.state ≠ .assigned := by
    intro assigned
    simp [WorkerSlot.isEligible, assigned] at eligible
  have unlisted : selection.worker ∉ turn.log.assignments.map (·.worker) := by
    intro listed
    obtain ⟨assignment, old, equal⟩ := List.mem_map.1 listed
    obtain ⟨slot, present, carried⟩ := (carries.carried assignment).1 old
    rw [equal, found] at present
    exact idle (Option.some.inj present ▸ carried.state)
  have listed : (turn.handOver selection).log.assignments =
      turn.log.assignments ++ [turn.assignmentOf selection] := rfl
  rw [listed]
  refine ⟨fun assignment => ?_, fun worker slot present assigned => ?_, ?_⟩
  · rw [slot?_handOver, List.mem_append, List.mem_singleton]
    by_cases same : selection.worker = assignment.worker
    · have fresh : assignment ∉ turn.log.assignments := fun old =>
        unlisted (List.mem_map.2 ⟨assignment, old, same.symm⟩)
      have taken := eq_assignmentOf_iff turn same chosen turn.controller.round
      rw [if_pos same, ← same, found, or_iff_right fresh, taken]
      simp
    · have other : assignment ≠ turn.assignmentOf selection := fun equal =>
        same (congrArg Assignment.worker equal).symm
      rw [if_neg same, ← carries.carried assignment, or_iff_left other]
  · rw [List.map_append, List.mem_append]
    rw [slot?_handOver] at present
    split at present
    next same => exact .inr (List.mem_singleton.2 same.symm)
    next => exact .inl (carries.listed worker slot present assigned)
  · rw [List.map_append]
    exact carries.workers.append (List.nodup_singleton _) (List.disjoint_singleton.2 unlisted)

/-- Assigning lists each slot that takes an item, and the holdings change as listed. -/
theorem Assigns.carries (assigns : Assigns turn final) (sound : turn.controller.pool.Sound)
    (carries : turn.controller.pool.Carries turn.log.assignments) :
    final.controller.pool.Carries final.log.assignments := by
  induction assigns with
  | done => exact carries
  | handOver selected _ inductionHypothesis =>
      exact inductionHypothesis (sound_handOver sound selected)
        (carries_handOver sound selected carries)

/-- An assignment adds itself to the holdings. -/
theorem holdings_handOver (sound : turn.controller.pool.Sound)
    (selected : turn.selection? = some selection) :
    (turn.handOver selection).controller.pool.holdings =
      turn.controller.pool.holdings.add (turn.assignmentOf selection) := by
  obtain ⟨chosen, found, _, _⟩ := eligible_of_selection? sound selected
  funext worker
  rw [WorkerPool.holdings, slot?_handOver, Holdings.add]
  by_cases same : selection.worker = worker
  · subst same
    rw [if_pos rfl, found]
    simp [assignmentOf, WorkerSlot.holding?, WorkerSlot.activeWork?, WorkerSlot.take,
      WorkerSlot.isActive, WorkerState.isActive]
  · have other : worker ≠ (turn.assignmentOf selection).worker := Ne.symm same
    rw [if_neg same, if_neg other]
    rfl

/-- Assigning adds what it lists to the holdings. -/
theorem Assigns.holdings_eq (assigns : Assigns turn final) (sound : turn.controller.pool.Sound) :
    ∃ assigned, final.log.assignments = turn.log.assignments ++ assigned ∧
      final.controller.pool.holdings =
        assigned.foldl Holdings.add turn.controller.pool.holdings := by
  induction assigns with
  | done => exact ⟨[], (List.append_nil _).symm, rfl⟩
  | @handOver turn selection final selected _ inductionHypothesis =>
      obtain ⟨assigned, listed, holdings⟩ := inductionHypothesis (sound_handOver sound selected)
      refine ⟨turn.assignmentOf selection :: assigned, ?_, ?_⟩
      · rw [listed, Turn.handOver, List.append_assoc, List.singleton_append]
      · rw [holdings, holdings_handOver sound selected, List.foldl_cons]

end Turn

namespace Controller

variable {controller : Controller}

/-- After a round every new assignment is carried by its worker. -/
theorem Sound.carries_runRound (sound : controller.Sound) :
    controller.runRound.1.pool.Carries controller.runRound.2.log.assignments := by
  have start : controller.selecting.controller.pool.Carries
      controller.selecting.log.assignments := by
    rw [assignments_selecting]
    exact controller.frees_before_assigning.carries_nil
  rw [pool_runRound, runRound_eq, Turn.log_report]
  exact (Turn.assignAll_assigns sound.selecting.sound).carries sound.selecting.sound start

/-- Replaying a round on the holdings before it gives the holdings after it. -/
theorem Sound.holdings_runRound (sound : controller.Sound) (recalls : controller.Recalls)
    (distinct : controller.pool.works.Nodup) :
    controller.runRound.2.log.assignments.foldl Holdings.add
        (controller.runRound.2.log.departed.foldl Holdings.remove controller.holdings) =
      controller.runRound.1.holdings := by
  have balance := sound.works_runRound recalls distinct
  rw [← WorkerPool.works_promote] at balance distinct
  have freed := controller.frees_before_assigning.foldl_remove distinct balance
  obtain ⟨assigned, listed, holdings⟩ :=
    (Turn.assignAll_assigns sound.selecting.sound).holdings_eq sound.selecting.sound
  rw [assignments_selecting, List.nil_append] at listed
  rw [Controller.holdings, ← WorkerPool.holdings_promote, freed, Controller.holdings, pool_runRound,
    holdings, runRound_eq, Turn.log_report, listed]

/-- Replaying a drain on the holdings before it gives the holdings after it. -/
theorem Recalls.holdings_drain (recalls : controller.Recalls)
    (distinct : controller.pool.works.Nodup) :
    (controller.drain.2.map (·.work)).foldl Holdings.remove controller.holdings =
      controller.drain.1.holdings := by
  have balance := (recalls.departs_drain distinct).balance
  have frees : controller.pool.Frees controller.drain.1.pool := by
    rw [pool_drain]
    exact WorkerPool.frees_releaseAll _ _
  rw [zero_add] at balance
  exact frees.foldl_remove distinct balance

/-- Other operations leave the holdings as they are. -/
theorem Sound.holdings_perform (sound : controller.Sound) (distinct : controller.pool.works.Nodup)
    (operation : Operation) (between : operation ≠ .round) (kept : operation ≠ .drain) :
    controller.holdings = (controller.perform operation).1.holdings := by
  have frees := sound.frees_perform operation between
  have none := frees.foldl_remove distinct
    (by rw [works_perform controller operation between kept, Multiset.coe_nil, add_zero])
  exact none

/-- Replaying a step on the holdings before it gives the holdings after it. -/
theorem Sound.replay_stepOf (sound : controller.Sound) (recalls : controller.Recalls)
    (distinct : controller.pool.works.Nodup) (operation : Operation) :
    controller.holdings.replay (controller.stepOf operation) =
      (controller.perform operation).1.holdings := by
  cases operation with
  | round => exact sound.holdings_runRound recalls distinct
  | drain => exact recalls.holdings_drain distinct
  | _ => exact sound.holdings_perform distinct _ (by simp) (by simp)

end Controller

/-- The report of a round names every slot that the round gave an item or took one from:
the slots that were just handed an item are those of the assignments, and a slot whose
worker is not named turns busy at most. -/
structure Controller.ExplainsRound (controller : Controller) : Prop where
  carries : controller.runRound.1.pool.Carries controller.runRound.2.log.assignments
  works : (controller.runRound.2.log.assignments.map (·.work)).Nodup
  unnamed : ∀ worker, worker ∉ controller.runRound.2.log.named →
    controller.runRound.1.pool.slot? worker =
      (controller.pool.slot? worker).map WorkerSlot.promote

namespace Lifetime

variable {config : Configuration} {history : History} {controller : Controller}

/-- Throughout a lifetime the reports replay to what the workers hold. -/
theorem holdings_eq (lifetime : Lifetime config history controller) :
    history.holdings = controller.holdings := by
  induction lifetime with
  | start created =>
      rw [start_eq created]
      funext worker
      cases found : (Controller.start config).pool.slot? worker with
      | none =>
          rw [Controller.holdings, WorkerPool.holdings, found]
          rfl
      | some slot =>
          obtain ⟨number, _, rfl⟩ := List.mem_map.1 (WorkerPool.mem_of_slot? found)
          rw [Controller.holdings, WorkerPool.holdings, found]
          rfl
  | step prior operation inductionHypothesis =>
      rw [History.holdings, List.foldl_append, ← History.holdings, inductionHypothesis,
        List.foldl_cons, List.foldl_nil]
      exact prior.ledgered.sound.replay_stepOf prior.recalls prior.nodup_works operation

/-- At every point of every lifetime the records alone tell which worker holds which item
and range, and the next report will name every slot that its round touches. -/
theorem explained (lifetime : Lifetime config history controller) :
    history.holdings = controller.holdings ∧ controller.ExplainsRound := by
  have sound := lifetime.ledgered.sound
  have carries := sound.carries_runRound
  refine ⟨lifetime.holdings_eq, carries, ?_, fun worker => sound.slot?_runRound⟩
  exact carries.nodup_works (lifetime.step .round).nodup_works

/-- Two workers and three items: in the second round one worker completes its item, the
other one is excluded, and the free worker takes the item of the excluded one. -/
theorem explained_after_exclusion :
    let start := Controller.start { pool := { workers := 2, searchSpace := 10 } }
    let operations : List Operation :=
      [.submit ⟨[1]⟩ .low, .submit ⟨[2]⟩ .low, .submit ⟨[3]⟩ .low, .round,
        .receive (.completion ⟨0, 1, .exhausted, .ofFloat 0⟩), .receive (.health ⟨1, true, 0⟩),
        .round]
    let history := start.stepsOf operations
    let controller := start.after operations
    Lifetime { pool := { workers := 2, searchSpace := 10 } } history controller ∧
      (List.range 3).map controller.holdings = [some (2, ⟨0, 4⟩), none, none] ∧
      (history.holdings = controller.holdings ∧ controller.ExplainsRound) := by
  intro start operations history controller
  have lifetime : Lifetime { pool := { workers := 2, searchSpace := 10 } } history controller :=
    (Lifetime.start rfl).after operations
  refine ⟨lifetime, ?_, lifetime.explained⟩
  decide +kernel

end Lifetime

end PoolArbiter
