import Mathlib.Data.List.Induction
import PoolArbiter.Proofs.Collection.Poll
import PoolArbiter.Proofs.Selection.Ranking

/-!
# What a poll accounts for

A poll takes in completions in the order of service, and each of them may change the pool
that the next one meets. `Collector.Accounted` says where this leads without a run: the
results, the slots, the cursor and the workers that lost their trust are read off the pool
before the poll and the completions that were taken in, by the first completion that names
the item of a worker. One completion keeps it, so any number of them do, and
`Collector.accounts_poll` restates it for the completions in the order of their arrival.
-/

namespace PoolArbiter

/-- What holds of every place of a list and of one more item holds of every place of both. -/
theorem forall_split_concat {α : Type} {motive : List α → α → Prop} {items : List α} {last : α}
    (before : ∀ earlier item later, items = earlier ++ item :: later → motive earlier item)
    (atLast : motive items last) :
    ∀ earlier item later, items ++ [last] = earlier ++ item :: later → motive earlier item := by
  intro earlier item later split
  rcases later.eq_nil_or_concat with rfl | ⟨rest, final, rfl⟩
  · obtain ⟨rfl, same⟩ := List.append_inj' split rfl
    rwa [← (List.cons.inj same).1]
  · rw [List.concat_eq_append, ← List.cons_append, ← List.append_assoc] at split
    exact before earlier item rest (List.append_inj' split rfl).1

namespace WorkerSlot

variable {slot : WorkerSlot} {seen : List Completion} {completion : Completion}
  {smoothing : Binary64} {round : Round}

/-- A slot after completions: the one that counts vacates it and leaves the worker's load and
the time that it took. -/
def afterCompletions (slot : WorkerSlot) (smoothing : Binary64) (completions : List Completion)
    (round : Round) : WorkerSlot :=
  match slot.completion? completions with
  | none => slot
  | some completion =>
      { slot.vacate .idle with
        load := Binary64.clamp 0 100 completion.load
        latency :=
          Collector.smoothed smoothing slot.latency (.ofFloat (Float.ofNat (slot.elapsed round))) }

/-- Completions do not change the number of a slot. -/
@[simp]
theorem id_afterCompletions (slot : WorkerSlot) (smoothing : Binary64)
    (completions : List Completion) (round : Round) :
    (slot.afterCompletions smoothing completions round).id = slot.id := by
  unfold afterCompletions
  split <;> rfl

/-- A slot changes by the completion that counts for it and by no other. -/
theorem afterCompletions_congr {one another : List Completion}
    (same : slot.completion? one = slot.completion? another) :
    slot.afterCompletions smoothing one round = slot.afterCompletions smoothing another round := by
  unfold afterCompletions
  rw [same]

/-- A further completion counts for a slot only if none did before and it names the slot. -/
theorem completion?_concat (slot : WorkerSlot) (seen : List Completion) (completion : Completion) :
    slot.completion? (seen ++ [completion]) =
      (slot.completion? seen).or (if slot.isNamedBy completion then some completion else none) := by
  rw [completion?, List.find?_append, List.find?_singleton]
  rfl

/-- One more completion counts only if it is the first to name the slot. -/
theorem completion?_concat_of_not_counts
    (passed : slot.completion? seen = none → slot.isNamedBy completion = false) :
    slot.completion? (seen ++ [completion]) = slot.completion? seen := by
  rw [completion?_concat]
  cases counted : slot.completion? seen with
  | none => simp [passed counted]
  | some first => rfl

/-- A completion of another worker does not count. -/
theorem completion?_concat_of_elsewhere {pool : WorkerPool} {worker : WorkerId}
    (numbered : pool.Numbered) (found : pool.slot? worker = some slot)
    (elsewhere : completion.worker ≠ worker) :
    slot.completion? (seen ++ [completion]) = slot.completion? seen := by
  refine completion?_concat_of_not_counts fun _ => ?_
  rw [Bool.eq_false_iff, Ne, isNamedBy_iff, numbered found]
  exact fun names => elsewhere names.1

/-- A slot that a completion has counted for is named by no other one. -/
theorem isNamedBy_afterCompletions :
    (slot.afterCompletions smoothing seen round).isNamedBy completion = true ↔
      slot.completion? seen = none ∧ slot.isNamedBy completion = true := by
  unfold afterCompletions
  cases counted : slot.completion? seen with
  | none => simp
  | some first => simp [isNamedBy, activeWork?, isActive, vacate, WorkerState.isActive]

end WorkerSlot

namespace WorkResult

/-- Whether the completion that counted for the worker of a result reported a hit and the
result is none. -/
def isDowngraded (result : WorkResult) (pool : WorkerPool) (completions : List Completion) : Bool :=
  ((pool.slot? result.worker).bind (·.completion? completions)).any fun completion =>
    completion.outcome.isFound && !result.outcome.isFound

end WorkResult

namespace Collector

variable {collector : Collector} {pool : WorkerPool} {round : Round} {foreign : Nat}
  {seen completions : List Completion} {progress : Progress} {completion : Completion}
  {slot : WorkerSlot} {earlier : List WorkResult} {result : WorkResult}

/-- A result is decided by the first completion that names its worker and the item at work
there. The verdict on the item is used up by the first result of that item. -/
def Decides (collector : Collector) (pool : WorkerPool) (round : Round)
    (completions : List Completion) (earlier : List WorkResult) (result : WorkResult) : Prop :=
  ∃ slot item completion, pool.slot? result.worker = some slot ∧ slot.item = some item ∧
    slot.completion? completions = some completion ∧
    result = item.result slot.id
      (judged (if item.id ∈ earlier.map (·.work) then none else collector.verdicts.find? item.id)
        completion.outcome) round

/-- Where a poll has come to with the completions that it has taken in, if the poll began with
a number of stale ones. -/
structure Accounted (collector : Collector) (pool : WorkerPool) (round : Round) (foreign : Nat)
    (seen : List Completion) (progress : Progress) : Prop where
  smoothing : progress.collector.smoothing = collector.smoothing
  count : progress.yield.results.length + progress.yield.stale = foreign + seen.length
  slots : ∀ worker, progress.pool.slot? worker =
    (pool.slot? worker).map (·.afterCompletions collector.smoothing seen round)
  workers : ∀ worker, worker ∈ progress.yield.results.map (·.worker) ↔
    ∃ slot, pool.slot? worker = some slot ∧ slot.completion? seen ≠ none
  once : (progress.yield.results.map (·.worker)).Nodup
  inTurn : (progress.yield.results.map (·.worker)).Sublist (seen.map (·.worker))
  verdicts : ∀ work, progress.collector.verdicts.find? work =
    if work ∈ progress.yield.results.map (·.work) then none else collector.verdicts.find? work
  decided : ∀ earlier result later, progress.yield.results = earlier ++ result :: later →
    Decides collector pool round seen earlier result
  cursor : progress.collector.cursor =
    (progress.yield.results.getLast?.map (·.worker)).or collector.cursor
  untrusted : progress.yield.untrusted =
    (progress.yield.results.filter (·.isDowngraded pool seen)).map (·.worker)

section Step

/-- Judging changes an outcome exactly if it makes a hit none. -/
theorem judged_bne_eq (verdict : Option Bool) (outcome : Outcome) :
    (judged verdict outcome != outcome) =
      (outcome.isFound && !(judged verdict outcome).isFound) := by
  unfold judged
  cases outcome with
  | exhausted => rfl
  | found answer => by_cases failed : verdict = some false <;> simp [Outcome.isFound, failed]

/-- What decided a result is not undone by a further completion. -/
theorem Decides.concat (decides : Decides collector pool round seen earlier result)
    (completion : Completion) :
    Decides collector pool round (seen ++ [completion]) earlier result := by
  obtain ⟨slot, item, first, found, holds, counts, isResult⟩ := decides
  refine ⟨slot, item, first, found, holds, ?_, isResult⟩
  rw [WorkerSlot.completion?_concat, counts, Option.some_or]

/-- What was downgraded stays so as more completions come. -/
theorem Decides.isDowngraded_concat (decides : Decides collector pool round seen earlier result)
    (completion : Completion) :
    result.isDowngraded pool (seen ++ [completion]) = result.isDowngraded pool seen := by
  obtain ⟨slot, _, first, found, _, counts, _⟩ := decides
  have still : slot.completion? (seen ++ [completion]) = some first := by
    rw [WorkerSlot.completion?_concat, counts, Option.some_or]
  simp only [WorkResult.isDowngraded, found, Option.bind_some, counts, still]

namespace Accounted

/-- Every result that is published was decided by a completion. -/
theorem decided_of_mem (accounted : Accounted collector pool round foreign seen progress)
    (member : result ∈ progress.yield.results) :
    ∃ earlier, Decides collector pool round seen earlier result := by
  obtain ⟨earlier, later, split⟩ := List.append_of_mem member
  exact ⟨earlier, accounted.decided earlier result later split⟩

/-- A further completion does not change which of the published results were downgraded. -/
theorem downgraded_concat (accounted : Accounted collector pool round foreign seen progress)
    (completion : Completion) :
    progress.yield.results.filter (·.isDowngraded pool (seen ++ [completion])) =
      progress.yield.results.filter (·.isDowngraded pool seen) := by
  refine List.filter_congr fun result member => ?_
  obtain ⟨_, decides⟩ := accounted.decided_of_mem member
  exact decides.isDowngraded_concat completion

/-- A completion that is not the first to name a slot is stale and does no more. -/
theorem skip (accounted : Accounted collector pool round foreign seen progress)
    (passed : ∀ ⦃worker slot⦄, pool.slot? worker = some slot →
      slot.completion? (seen ++ [completion]) = slot.completion? seen) :
    Accounted collector pool round foreign (seen ++ [completion])
      { progress with yield := { progress.yield with stale := progress.yield.stale + 1 } } where
  smoothing := accounted.smoothing
  count := by
    have count := accounted.count
    simp only [List.length_append, List.length_singleton]
    omega
  slots := by
    intro worker
    refine (accounted.slots worker).trans (Option.map_congr fun slot found => ?_)
    exact (WorkerSlot.afterCompletions_congr (passed found)).symm
  workers := by
    intro worker
    refine (accounted.workers worker).trans
      (exists_congr fun slot => and_congr_right fun found => ?_)
    rw [passed found]
  once := accounted.once
  inTurn := by
    rw [List.map_append]
    exact accounted.inTurn.trans (List.sublist_append_left _ _)
  verdicts := accounted.verdicts
  decided := fun earlier result later split =>
    (accounted.decided earlier result later split).concat completion
  cursor := accounted.cursor
  untrusted := by
    rw [accounted.downgraded_concat]
    exact accounted.untrusted

/-- The first completion to name a slot yields the result of its item and vacates it. -/
theorem publish (accounted : Accounted collector pool round foreign seen progress)
    (numbered : pool.Numbered) (found : pool.slot? slot.id = some slot)
    (first : slot.completion? seen = none) (named : slot.isNamedBy completion = true) :
    Accounted collector pool round foreign (seen ++ [completion])
      (progress.accept round completion) := by
  have addressed : completion.worker = slot.id := (WorkerSlot.isNamedBy_iff.1 named).1
  have here : progress.pool.slot? slot.id = some slot := by
    rw [accounted.slots, found, Option.map_some, WorkerSlot.afterCompletions, first]
  have counts : slot.completion? (seen ++ [completion]) = some completion := by
    rw [WorkerSlot.completion?_concat, first, named]
    rfl
  have passed : ∀ {worker other}, pool.slot? worker = some other → slot.id ≠ worker →
      other.completion? (seen ++ [completion]) = other.completion? seen := fun present different =>
    WorkerSlot.completion?_concat_of_elsewhere numbered present (addressed ▸ different)
  obtain ⟨item, holds, work, held⟩ := exists_heldItem?_of_isNamedBy here named
  have unserved : slot.id ∉ progress.yield.results.map (·.worker) := by
    rw [accounted.workers]
    rintro ⟨other, present, counted⟩
    rw [found] at present
    obtain rfl := Option.some.inj present
    exact counted first
  have said : progress.collector.verdicts.find? item.id =
      if item.id ∈ progress.yield.results.map (·.work) then none
      else collector.verdicts.find? item.id := accounted.verdicts item.id
  unfold Progress.accept
  rw [held, addressed]
  -- Only this slot and the verdict on its item change: for any other slot the completion is one
  -- of another worker, by `passed`, and for this one it is the one that counts, by `counts`.
  constructor
  case smoothing => exact accounted.smoothing
  case count =>
    have count := accounted.count
    simp only [List.length_append, List.length_singleton]
    omega
  case slots =>
    intro worker
    simp only [WorkerPool.slot?_update, accounted.slots]
    split
    next same =>
      subst same
      simp [found, WorkerSlot.afterCompletions, first, counts, accounted.smoothing]
    next different =>
      refine Option.map_congr fun other present => ?_
      exact (WorkerSlot.afterCompletions_congr (passed present different)).symm
  case workers =>
    intro worker
    simp only [List.map_append, List.map_singleton, WorkItem.result, List.mem_append,
      List.mem_singleton, accounted.workers]
    by_cases same : worker = slot.id
    · subst same
      simp [found, counts]
    · simp only [same, or_false]
      exact exists_congr fun other => and_congr_right fun present => by
        rw [passed present (Ne.symm same)]
  case once =>
    simp only [List.map_append, List.map_singleton, WorkItem.result]
    rw [← List.concat_eq_append]
    exact accounted.once.concat unserved
  case inTurn =>
    rw [List.map_append, List.map_append, ← addressed]
    exact accounted.inTurn.append (List.Sublist.refl _)
  case verdicts =>
    intro work
    simp only [KeyMap.find?_erase, accounted.verdicts, List.map_append, List.map_singleton,
      WorkItem.result, List.mem_append, List.mem_singleton]
    split <;> simp_all
  case decided =>
    refine forall_split_concat (fun earlier result later split =>
      (accounted.decided earlier result later split).concat completion) ?_
    exact ⟨slot, item, completion, found, holds, counts, by rw [said]⟩
  case cursor => simp [WorkItem.result]
  case untrusted =>
    simp only [List.filter_append, List.map_append, accounted.downgraded_concat,
      accounted.untrusted]
    congr 1
    rw [judged_bne_eq, List.filter_singleton]
    simp only [WorkResult.isDowngraded, WorkItem.result, found, counts, Option.bind_some,
      Option.any_some, cond_eq_ite]
    split <;> rfl

/-- A completion of a worker that does not exist is stale. -/
theorem accept_of_absent (absent : progress.pool.slot? completion.worker = none) :
    progress.accept round completion =
      { progress with yield := { progress.yield with stale := progress.yield.stale + 1 } } := by
  have missed : heldItem? progress.pool completion = none := by
    rw [heldItem?, absent]
    rfl
  unfold Progress.accept
  rw [missed]

/-- Every completion keeps the account. -/
protected theorem accept (accounted : Accounted collector pool round foreign seen progress)
    (numbered : pool.Numbered) (completion : Completion) :
    Accounted collector pool round foreign (seen ++ [completion])
      (progress.accept round completion) := by
  cases found : pool.slot? completion.worker with
  | none =>
      have absent : progress.pool.slot? completion.worker = none := by
        rw [accounted.slots, found, Option.map_none]
      rw [accept_of_absent absent]
      refine accounted.skip fun worker slot present => ?_
      refine WorkerSlot.completion?_concat_of_elsewhere numbered present ?_
      rintro rfl
      rw [found] at present
      cases present
  | some slot =>
      have number : slot.id = completion.worker := numbered found
      cases named : (slot.afterCompletions collector.smoothing seen round).isNamedBy completion with
      | true =>
          obtain ⟨first, names⟩ := WorkerSlot.isNamedBy_afterCompletions.1 named
          exact accounted.publish numbered (number.symm ▸ found) first names
      | false =>
          have here : progress.pool.slot?
              (slot.afterCompletions collector.smoothing seen round).id =
                some (slot.afterCompletions collector.smoothing seen round) := by
            rw [WorkerSlot.id_afterCompletions, number, accounted.slots, found, Option.map_some]
          have unnamed : slot.completion? seen = none → slot.isNamedBy completion = false := by
            intro first
            rw [Bool.eq_false_iff] at named ⊢
            exact fun names => named (WorkerSlot.isNamedBy_afterCompletions.2 ⟨first, names⟩)
          rw [accept_of_unnamed here (by simp [number]) named]
          refine accounted.skip fun worker other present => ?_
          by_cases same : completion.worker = worker
          · rw [← same, found] at present
            obtain rfl := Option.some.inj present
            exact WorkerSlot.completion?_concat_of_not_counts unnamed
          · exact WorkerSlot.completion?_concat_of_elsewhere numbered present same

end Accounted

/-- A poll keeps the account of the completions that it takes in, in whatever order. -/
theorem accounted_foldl (numbered : pool.Numbered) (collector : Collector) (round : Round)
    (foreign : Nat) (completions : List Completion) :
    Accounted collector pool round foreign completions
      (completions.foldl (fun progress completion => progress.accept round completion)
        ⟨collector, pool, { stale := foreign }⟩) := by
  induction completions using List.reverseRecOn with
  | nil => constructor <;> simp [WorkerSlot.afterCompletions, WorkerSlot.completion?]
  | append_singleton seen completion inductionHypothesis =>
      rw [List.foldl_concat]
      exact inductionHypothesis.accept numbered completion

end Step

section Order

variable {cursor : Option WorkerId} {size : Nat}

/-- The worker whose turn is first. -/
def firstTurn (cursor : Option WorkerId) : WorkerId :=
  cursor.elim 0 fun last => last + 1

/-- The order of service goes round once, from the first turn on. -/
theorem serviceOrder_eq_map (cursor : Option WorkerId) (inhabited : 0 < size) :
    serviceOrder cursor size =
      (List.range size).map fun offset => (firstTurn cursor + offset) % size := by
  unfold serviceOrder
  dsimp only
  obtain ⟨start, isStart⟩ : ∃ start : Nat,
      start = cursor.elim 0 fun last => (last + 1) % size := ⟨_, rfl⟩
  have reduced : start = firstTurn cursor % size := by
    rw [isStart]
    cases cursor with
    | none => exact (Nat.zero_mod size).symm
    | some last => rfl
  have inside : start < size := reduced ▸ Nat.mod_lt _ inhabited
  have shift : ∀ offset, (firstTurn cursor + offset) % size = (start + offset) % size := by
    intro offset
    rw [reduced, Nat.mod_add_mod]
  rw [← isStart]
  -- Up to the last worker the turns do not reach the size, and from there on they wrap around.
  calc List.range' start (size - start) ++ List.range start
      = (List.range (size - start)).map (fun offset => (start + offset) % size) ++
          (List.range start).map fun offset => (start + (size - start + offset)) % size := by
        congr 1
        · rw [List.range'_eq_map_range]
          refine List.map_congr_left fun offset member => ?_
          have bounded := List.mem_range.1 member
          exact (Nat.mod_eq_of_lt (by omega)).symm
        · conv_lhs => rw [← List.map_id (List.range start)]
          refine List.map_congr_left fun offset member => ?_
          have bounded := List.mem_range.1 member
          have around : start + (size - start + offset) = offset + size := by omega
          rw [around, Nat.add_mod_right, Nat.mod_eq_of_lt (by omega), id]
    _ = (List.range (size - start + start)).map fun offset => (start + offset) % size := by
        rw [List.range_add, List.map_append, List.map_map]
        rfl
    _ = (List.range size).map fun offset => (firstTurn cursor + offset) % size := by
        rw [Nat.sub_add_cancel inside.le]
        exact List.map_congr_left fun offset _ => (shift offset).symm

/-- In the order of service a worker comes before another one if its turn is nearer. -/
theorem pairwise_serviceOrder (cursor : Option WorkerId) (inhabited : 0 < size) :
    (serviceOrder cursor size).Pairwise fun first second =>
      Policy.turnsUntil size (firstTurn cursor) first <
        Policy.turnsUntil size (firstTurn cursor) second := by
  rw [serviceOrder_eq_map cursor inhabited, List.pairwise_map]
  refine List.pairwise_lt_range.imp_of_mem fun {first second} one another less => ?_
  rw [Policy.turnsUntil_eq (List.mem_range.1 one) rfl,
    Policy.turnsUntil_eq (List.mem_range.1 another) rfl]
  exact less

/-- Completions are served in the order of the turns of their workers. -/
theorem pairwise_inServiceOrder (cursor : Option WorkerId) (inhabited : 0 < size)
    (completions : List Completion) :
    ((inServiceOrder cursor size completions).map (·.worker)).Pairwise fun first second =>
      Policy.turnsUntil size (firstTurn cursor) first ≤
        Policy.turnsUntil size (firstTurn cursor) second := by
  have own : ∀ {worker completion},
      completion ∈ completions.filter (fun completion => completion.worker == worker) →
        completion.worker = worker :=
    fun member => eq_of_beq (List.mem_filter.1 member).2
  rw [List.pairwise_map, inServiceOrder, List.pairwise_flatMap]
  constructor
  · intro worker _
    exact List.pairwise_of_forall_mem_list fun first one second another => by
      rw [own one, own another]
  · refine (pairwise_serviceOrder cursor inhabited).imp fun less first one second another => ?_
    rw [own one, own another]
    exact less.le

/-- Sorting completions by worker loses none whose worker exists. -/
theorem length_flatMap_filter_worker (completions : List Completion) (size : Nat) :
    ((List.range size).flatMap fun worker =>
        completions.filter fun completion => completion.worker == worker).length =
      completions.countP (·.worker < size) := by
  induction size with
  | zero => simp
  | succ size inductionHypothesis =>
      have last : completions.countP (·.worker < size + 1) =
          completions.countP (·.worker < size) + completions.countP (·.worker == size) := by
        rw [List.countP_eq_countP_filter_add _ _ (·.worker < size), List.countP_filter,
          List.countP_filter]
        congr 1 <;> refine List.countP_congr fun completion _ => ?_ <;> grind
      rw [List.range_succ, List.flatMap_append, List.length_append, inductionHypothesis, last]
      simp [List.countP_eq_length_filter]

/-- Each completion is in the order of service once, unless its worker does not exist. -/
theorem length_inServiceOrder (cursor : Option WorkerId) (inhabited : 0 < size)
    (completions : List Completion) :
    (completions.countP fun completion => size ≤ completion.worker) +
      (inServiceOrder cursor size completions).length = completions.length := by
  have turns := (serviceOrder_perm cursor inhabited).flatMap_right fun worker =>
    completions.filter fun completion => completion.worker == worker
  rw [inServiceOrder, turns.length_eq, length_flatMap_filter_worker, Nat.add_comm,
    List.length_eq_countP_add_countP (·.worker < size)]
  simp

/-- The order of service does not matter for the completion that counts for a slot. -/
theorem completion?_inServiceOrder (inside : slot.id < size) :
    slot.completion? (inServiceOrder cursor size completions) = slot.completion? completions := by
  have turns : slot.id ∈ serviceOrder cursor size :=
    (serviceOrder_perm cursor (Nat.zero_lt_of_lt inside)).mem_iff.2 (List.mem_range.2 inside)
  have own : ∀ worker, slot.completion?
      (completions.filter fun completion => completion.worker == worker) =
        if worker = slot.id then slot.completion? completions else none := by
    intro worker
    split
    next same => rw [same, slot.completion?_filter]
    next different =>
      refine List.find?_eq_none.2 fun completion member named => different ?_
      rw [← eq_of_beq (List.mem_filter.1 member).2]
      exact (WorkerSlot.isNamedBy_iff.1 named).1
  rw [WorkerSlot.completion?, inServiceOrder, List.find?_flatMap]
  change (serviceOrder cursor size).findSome? (fun worker => slot.completion? _) = _
  simp only [own]
  cases served : (serviceOrder cursor size).findSome? _ with
  | none =>
      have unserved := List.findSome?_eq_none_iff.1 served slot.id turns
      rw [if_pos rfl] at unserved
      exact unserved.symm
  | some completion =>
      obtain ⟨worker, _, given⟩ := List.exists_of_findSome?_eq_some served
      split at given
      next => exact given.symm
      next => cases given

end Order

section Poll

/-- A poll accounts for all completions: those of workers that do not exist, and those in the order
of service. -/
theorem accounted_poll (numbered : pool.Numbered) (occupied : pool.slots ≠ [])
    (collector : Collector) (completions : List Completion) (round : Round) :
    Accounted collector pool round
      (completions.countP fun completion => pool.size ≤ completion.worker)
      (inServiceOrder collector.cursor pool.size completions)
      (collector.poll completions pool round) := by
  rw [poll, if_neg (by simpa using occupied)]
  exact accounted_foldl numbered collector round _ _

/-- A poll leaves each slot as the completion that counts for it does, if there is one. -/
theorem slot?_poll_eq (numbered : pool.Numbered) (collector : Collector)
    (completions : List Completion) (round : Round) (worker : WorkerId) :
    (collector.poll completions pool round).pool.slot? worker =
      (pool.slot? worker).map (·.afterCompletions collector.smoothing completions round) := by
  by_cases occupied : pool.slots = []
  · simp [poll, WorkerPool.slot?, occupied]
  · rw [(accounted_poll numbered occupied collector completions round).slots]
    refine Option.map_congr fun slot found => WorkerSlot.afterCompletions_congr ?_
    exact completion?_inServiceOrder (numbered.id_lt_size (WorkerPool.mem_of_slot? found))

/-- What a poll accounts for, read off the pool before it and the completions as they came. -/
structure AccountsFor (collector : Collector) (pool : WorkerPool) (completions : List Completion)
    (round : Round) (polled : Progress) : Prop where
  /-- Every completion yields a result or is stale. -/
  count : polled.yield.results.length + polled.yield.stale = completions.length
  /-- A worker yields one result at most. -/
  once : (polled.yield.results.map (·.worker)).Nodup
  /-- A worker yields a result exactly if some completion names it and the item at work in its
  slot. -/
  yields : ∀ worker, (∃ result ∈ polled.yield.results, result.worker = worker) ↔
    ∃ completion ∈ completions, completion.worker = worker ∧
      ∃ slot, pool.slot? worker = some slot ∧ slot.activeWork? = some completion.work
  /-- The first such completion decides the result. -/
  decided : ∀ earlier result later, polled.yield.results = earlier ++ result :: later →
    Decides collector pool round completions earlier result
  /-- The results come in the order of the workers, going round from the one after the last
  that was served. -/
  inTurn : polled.yield.results.Pairwise fun first second =>
    Policy.turnsUntil pool.size (firstTurn collector.cursor) first.worker <
      Policy.turnsUntil pool.size (firstTurn collector.cursor) second.worker
  /-- The cursor is the worker of the last result. -/
  cursor : polled.collector.cursor =
    (polled.yield.results.getLast?.map (·.worker)).or collector.cursor
  /-- A worker without a result keeps its slot. -/
  kept : ∀ worker, (∀ result ∈ polled.yield.results, result.worker ≠ worker) →
    polled.pool.slot? worker = pool.slot? worker
  /-- A worker with a result is idle and holds nothing, and its load is that of the completion
  that counts. -/
  freed : ∀ result ∈ polled.yield.results, ∃ slot completion,
    pool.slot? result.worker = some slot ∧ slot.completion? completions = some completion ∧
    polled.pool.slot? result.worker = some
      { slot with
        state := .idle, item := none, range := none, assignedRound := none
        load := Binary64.clamp 0 100 completion.load
        latency := smoothed collector.smoothing slot.latency
          (.ofFloat (Float.ofNat (slot.elapsed round))) }
  /-- Trust is lost by the workers whose hit was downgraded. -/
  untrusted : polled.yield.untrusted =
    (polled.yield.results.filter (·.isDowngraded pool completions)).map (·.worker)

/-- A poll of workers that stand at their own numbers accounts for all completions. -/
theorem poll_accountsFor (numbered : pool.Numbered) (occupied : pool.slots ≠ [])
    (collector : Collector) (completions : List Completion) (round : Round) :
    AccountsFor collector pool completions round (collector.poll completions pool round) := by
  have accounted := accounted_poll numbered occupied collector completions round
  have inhabited : 0 < pool.size := List.length_pos_iff.2 occupied
  have inside : ∀ {worker slot}, pool.slot? worker = some slot → worker < pool.size :=
    fun found => (List.getElem?_eq_some_iff.1 found).1
  have arrival : ∀ {worker slot}, pool.slot? worker = some slot →
      slot.completion? (inServiceOrder collector.cursor pool.size completions) =
        slot.completion? completions := fun found =>
    completion?_inServiceOrder (numbered.id_lt_size (WorkerPool.mem_of_slot? found))
  have served : ∀ {worker}, worker ∈ (collector.poll completions pool round).yield.results.map
      (·.worker) ↔ ∃ slot, pool.slot? worker = some slot ∧ slot.completion? completions ≠ none :=
    fun {worker} => (accounted.workers worker).trans
      (exists_congr fun slot => and_congr_right fun found => by rw [arrival found])
  constructor
  case count =>
    rw [accounted.count, length_inServiceOrder collector.cursor inhabited]
  case once => exact accounted.once
  case yields =>
    intro worker
    rw [← List.mem_map, served]
    constructor
    · rintro ⟨slot, found, counted⟩
      obtain ⟨completion, counts⟩ := Option.ne_none_iff_exists'.1 counted
      obtain ⟨addressed, works⟩ := WorkerSlot.isNamedBy_iff.1 (List.find?_some counts)
      exact ⟨completion, List.mem_of_find?_eq_some counts, addressed.trans (numbered found), slot,
        found, works⟩
    · rintro ⟨completion, member, addressed, slot, found, works⟩
      refine ⟨slot, found, fun unnamed => ?_⟩
      exact List.find?_eq_none.1 unnamed completion member
        (WorkerSlot.isNamedBy_iff.2 ⟨addressed.trans (numbered found).symm, works⟩)
  case decided =>
    intro earlier result later split
    obtain ⟨slot, item, completion, found, holds, counts, isResult⟩ :=
      accounted.decided earlier result later split
    exact ⟨slot, item, completion, found, holds, (arrival found).symm.trans counts, isResult⟩
  case inTurn =>
    have ordered := (pairwise_inServiceOrder collector.cursor inhabited completions).sublist
      accounted.inTurn
    rw [← List.pairwise_map (R := fun first second =>
      Policy.turnsUntil pool.size (firstTurn collector.cursor) first <
        Policy.turnsUntil pool.size (firstTurn collector.cursor) second)]
    refine (ordered.and accounted.once).imp_of_mem fun one another ⟨atMost, different⟩ => ?_
    obtain ⟨_, foundOne, _⟩ := served.1 one
    obtain ⟨_, foundAnother, _⟩ := served.1 another
    refine lt_of_le_of_ne atMost fun same => different ?_
    rw [← Policy.turnsUntil_reaches (firstTurn collector.cursor) (inside foundOne), same,
      Policy.turnsUntil_reaches _ (inside foundAnother)]
  case cursor => exact accounted.cursor
  case kept =>
    intro worker unserved
    rw [slot?_poll_eq numbered]
    cases found : pool.slot? worker with
    | none => rfl
    | some slot =>
        have unnamed : slot.completion? completions = none := by
          by_contra counted
          obtain ⟨result, member, isWorker⟩ := List.mem_map.1 (served.2 ⟨slot, found, counted⟩)
          exact unserved result member isWorker
        rw [Option.map_some, WorkerSlot.afterCompletions, unnamed]
  case freed =>
    intro result member
    obtain ⟨_, slot, _, completion, found, _, counts, _⟩ := accounted.decided_of_mem member
    rw [arrival found] at counts
    refine ⟨slot, completion, found, counts, ?_⟩
    rw [slot?_poll_eq numbered, found, Option.map_some, WorkerSlot.afterCompletions, counts]
    rfl
  case untrusted =>
    rw [accounted.untrusted]
    refine congrArg _ (List.filter_congr fun result member => ?_)
    obtain ⟨_, slot, _, _, found, _⟩ := accounted.decided_of_mem member
    rw [WorkResult.isDowngraded, found, Option.bind_some, arrival found, WorkResult.isDowngraded,
      found, Option.bind_some]

/-- After worker 0 it is the turn of worker 2. Worker 0 has a hit that failed its verdict; what
it reports of another item, what it reports again, and what comes from nobody is stale. -/
theorem poll_accountsFor_of_repeated_reports :
    let held (work : WorkId) : WorkItem := ⟨work, .low, ⟨[1]⟩, 1⟩
    let pool := ((WorkerPool.fresh 3 30 true).update 0 (·.take (held 1) ⟨0, 9⟩ 1)).update 2
      (·.take (held 2) ⟨20, 29⟩ 1)
    let collector : Collector :=
      ⟨some 0, .ofFloat 0.5, KeyMap.empty.insert 1 false, .ofCapacity 4⟩
    let report (worker work : Nat) (outcome : Outcome) : Completion :=
      ⟨worker, work, outcome, .ofFloat 50⟩
    let completions := [report 0 9 .exhausted, report 0 1 (.found [7]), report 0 1 .exhausted,
      report 8 1 .exhausted, report 2 2 .exhausted]
    let polled := collector.poll completions pool 3
    pool.Numbered ∧ pool.slots ≠ [] ∧ polled.yield.results.map (·.worker) = [2, 0] ∧
      polled.yield.stale = 3 ∧ polled.yield.untrusted = [0] ∧
      AccountsFor collector pool completions 3 polled := by
  intro held pool collector report completions polled
  have numbered : pool.Numbered := by
    refine WorkerPool.Numbered.update (WorkerPool.Numbered.update ?_ fun slot => ?_) fun slot => ?_
    · exact (WorkerPool.sound_fresh 3 30 true).numbered
    · rfl
    · rfl
  have occupied : pool.slots ≠ [] := by decide
  exact ⟨numbered, occupied, by decide +kernel, by decide +kernel, by decide +kernel,
    poll_accountsFor numbered occupied collector completions 3⟩

end Poll

end Collector

end PoolArbiter
