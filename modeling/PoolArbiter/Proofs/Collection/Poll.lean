import PoolArbiter.Proofs.Custody.Departures
import PoolArbiter.Proofs.Worker.Working

/-!
# What a poll yields

Of the completions of a worker the first that names its item counts, whatever comes
before it and after it. Serving the other workers first changes neither the slot nor
the verdict on its item, because no two workers hold items of the same number. So a
poll yields the result of each slot, in the order of service.
-/

namespace PoolArbiter

namespace WorkerSlot

/-- Whether a completion names the worker and the item at work in its slot. -/
def isNamedBy (slot : WorkerSlot) (completion : Completion) : Bool :=
  completion.worker == slot.id && slot.activeWork? == some completion.work

/-- The completion that counts for a slot: the first that names its worker and item. -/
def completion? (slot : WorkerSlot) (completions : List Completion) : Option Completion :=
  completions.find? slot.isNamedBy

/-- The result of a slot whose item is completed, judged by the verdicts. -/
def result? (slot : WorkerSlot) (completions : List Completion) (said : WorkId → Option Bool)
    (round : Round) : Option WorkResult := do
  let completion ← slot.completion? completions
  let item ← slot.item
  return item.result slot.id (Collector.judged (said completion.work) completion.outcome) round

/-- Whether a hit is reported for a slot and the verdict on its item has failed. -/
def isRejected (slot : WorkerSlot) (completions : List Completion)
    (said : WorkId → Option Bool) : Bool :=
  (slot.completion? completions).any fun completion =>
    completion.outcome.isFound && said completion.work == some false

variable {slot : WorkerSlot} {completions : List Completion} {completion : Completion}
  {said other : WorkId → Option Bool}

/-- A completion names a slot by its worker and by the item at work. -/
theorem isNamedBy_iff : slot.isNamedBy completion = true ↔
    completion.worker = slot.id ∧ slot.activeWork? = some completion.work := by
  simp [isNamedBy]

/-- The completion that counts for a slot names the item at work. -/
theorem activeWork?_of_completion? (counts : slot.completion? completions = some completion) :
    slot.activeWork? = some completion.work :=
  (isNamedBy_iff.1 (List.find?_some counts)).2

/-- Only the completions of its own worker count for a slot. -/
theorem completion?_filter (slot : WorkerSlot) (completions : List Completion) :
    slot.completion? (completions.filter fun completion => completion.worker == slot.id) =
      slot.completion? completions := by
  unfold completion?
  rw [List.find?_filter]
  congr 1
  funext completion
  unfold isNamedBy
  cases completion.worker == slot.id <;> simp [beq_eq_decide]

/-- The result of a slot depends on the completions of its worker only. -/
theorem result?_filter (slot : WorkerSlot) (completions : List Completion)
    (said : WorkId → Option Bool) (round : Round) :
    slot.result? (completions.filter fun completion => completion.worker == slot.id) said round =
      slot.result? completions said round := by
  rw [result?, completion?_filter, result?]

/-- Whether a hit is rejected depends on the completions of its worker only. -/
theorem isRejected_filter (slot : WorkerSlot) (completions : List Completion)
    (said : WorkId → Option Bool) :
    slot.isRejected (completions.filter fun completion => completion.worker == slot.id) said =
      slot.isRejected completions said := by
  rw [isRejected, completion?_filter, isRejected]

/-- Only the verdict on the item of a slot matters for it. -/
theorem result?_congr (same : ∀ work, slot.activeWork? = some work → said work = other work)
    (round : Round) :
    slot.result? completions said round = slot.result? completions other round := by
  unfold result?
  cases counts : slot.completion? completions with
  | none => rfl
  | some completion => rw [Option.bind_eq_bind, Option.bind_some, Option.bind_eq_bind,
      Option.bind_some, same _ (activeWork?_of_completion? counts)]

/-- Whether a hit is rejected depends on the verdict on its own item only. -/
theorem isRejected_congr (same : ∀ work, slot.activeWork? = some work → said work = other work) :
    slot.isRejected completions said = slot.isRejected completions other := by
  unfold isRejected
  cases counts : slot.completion? completions with
  | none => rfl
  | some completion =>
      rw [Option.any_some, Option.any_some, same _ (activeWork?_of_completion? counts)]

end WorkerSlot

namespace Collector

variable {progress served : Progress} {completions : List Completion} {round : Round}
  {worker : WorkerId} {slot : WorkerSlot}

/-- A worker was served: its slot yields its result, and the other slots and the verdicts on
other items stay. -/
structure Serves (completions : List Completion) (round : Round) (slot : WorkerSlot)
    (progress served : Progress) : Prop where
  slots : ∀ other, other ≠ slot.id → served.pool.slot? other = progress.pool.slot? other
  verdicts : ∀ work, slot.activeWork? ≠ some work →
    served.collector.verdicts.find? work = progress.collector.verdicts.find? work
  results : served.yield.results = progress.yield.results ++
    (slot.result? completions progress.collector.verdicts.find? round).toList
  untrusted : served.yield.untrusted = progress.yield.untrusted ++
    if slot.isRejected completions progress.collector.verdicts.find? then [slot.id] else []

/-- A completion counts for the slot of its worker if it names the item at work there. -/
theorem heldItem?_eq {pool : WorkerPool} {completion : Completion}
    (found : pool.slot? slot.id = some slot) (addressed : completion.worker = slot.id) :
    heldItem? pool completion =
      if slot.isNamedBy completion then slot.item.map (slot, ·) else none := by
  unfold heldItem? WorkerSlot.isNamedBy WorkerSlot.activeWork?
  rw [addressed, found]
  cases holds : slot.item with
  | none => simp [holds]
  | some item =>
      by_cases active : slot.isActive <;> by_cases named : item.id = completion.work <;>
        simp [holds, active, named]

/-- A verdict changes an outcome exactly if it rejects a hit. -/
theorem rejects_iff (verdict : Option Bool) (outcome : Outcome) :
    (judged verdict outcome != outcome) = (outcome.isFound && verdict == some false) := by
  unfold judged
  cases outcome with
  | exhausted => simp [Outcome.isFound]
  | found answer => by_cases failed : verdict = some false <;> simp [Outcome.isFound, failed]

/-- A completion that names a slot is about the item in it. -/
theorem exists_heldItem?_of_isNamedBy {pool : WorkerPool} {completion : Completion}
    (found : pool.slot? slot.id = some slot) (named : slot.isNamedBy completion = true) :
    ∃ item, slot.item = some item ∧ item.id = completion.work ∧
      heldItem? pool completion = some (slot, item) := by
  obtain ⟨addressed, works⟩ := WorkerSlot.isNamedBy_iff.1 named
  obtain ⟨item, holds, work⟩ : ∃ item, slot.item = some item ∧ item.id = completion.work := by
    unfold WorkerSlot.activeWork? at works
    split at works
    · exact Option.map_eq_some_iff.1 works
    · cases works
  refine ⟨item, holds, work, ?_⟩
  rw [heldItem?_eq found addressed, if_pos named, holds, Option.map_some]

/-- A completion that does not name the item of its worker counts as stale and does no more. -/
theorem accept_of_unnamed {completion : Completion}
    (found : progress.pool.slot? slot.id = some slot) (addressed : completion.worker = slot.id)
    (unnamed : slot.isNamedBy completion = false) :
    progress.accept round completion =
      { progress with yield := { progress.yield with stale := progress.yield.stale + 1 } } := by
  have missed : heldItem? progress.pool completion = none := by
    rw [heldItem?_eq found addressed, unnamed]
    rfl
  unfold Progress.accept
  rw [missed]

/-- A completion that names the item of its worker yields the result and vacates the slot. -/
theorem serves_accept {completion : Completion}
    (found : progress.pool.slot? slot.id = some slot) (addressed : completion.worker = slot.id)
    (named : slot.isNamedBy completion = true) (rest : List Completion) (round : Round) :
    Serves (completion :: rest) round slot progress (progress.accept round completion) ∧
      ∃ vacated : WorkerSlot, vacated.id = slot.id ∧ vacated.isActive = false ∧
        (progress.accept round completion).pool.slot? slot.id = some vacated := by
  obtain ⟨_, works⟩ := WorkerSlot.isNamedBy_iff.1 named
  obtain ⟨item, holds, work, counts⟩ := exists_heldItem?_of_isNamedBy found named
  have first : slot.completion? (completion :: rest) = some completion :=
    List.find?_cons_of_pos named
  unfold Progress.accept
  rw [counts, addressed]
  refine ⟨⟨?_, ?_, ?_, ?_⟩, ?_⟩
  · intro other different
    rw [WorkerPool.slot?_update, if_neg (Ne.symm different)]
  · intro key different
    have other : key ≠ item.id := by
      rintro rfl
      exact different (by rw [works, work])
    rw [KeyMap.find?_erase, if_neg other]
  · simp [WorkerSlot.result?, first, holds, work]
  · dsimp only
    rw [rejects_iff]
    simp [WorkerSlot.isRejected, first, work]
  · rw [WorkerPool.slot?_update, if_pos rfl, found]
    refine ⟨_, ?_, ?_, Option.map_some ..⟩ <;> rfl

/-- Completions that come after the slot was vacated change nothing. -/
theorem Serves.trans {middle : Progress} {rest : List Completion} {vacated : WorkerSlot}
    (serves : Serves completions round slot progress middle)
    (later : Serves rest round vacated middle served) (number : vacated.id = slot.id)
    (inactive : vacated.isActive = false) : Serves completions round slot progress served := by
  have idle : vacated.activeWork? = none := by simp [WorkerSlot.activeWork?, inactive]
  have unnamed : vacated.completion? rest = none := by
    simp [WorkerSlot.completion?, WorkerSlot.isNamedBy, idle]
  refine ⟨?_, ?_, ?_, ?_⟩
  · intro other different
    rw [later.slots other (number.symm ▸ different), serves.slots other different]
  · intro work different
    rw [later.verdicts work (by simp [idle]), serves.verdicts work different]
  · have results := later.results
    simp only [WorkerSlot.result?, unnamed] at results
    rw [results, serves.results]
    simp
  · have untrusted := later.untrusted
    simp only [WorkerSlot.isRejected, unnamed] at untrusted
    rw [untrusted, serves.untrusted]
    simp

/-- A worker is served by its completions, of which one counts at most. -/
theorem serves_foldl (found : progress.pool.slot? slot.id = some slot)
    (addressed : ∀ completion ∈ completions, completion.worker = slot.id) :
    Serves completions round slot progress
      (completions.foldl (fun progress completion => progress.accept round completion)
        progress) := by
  induction completions generalizing slot progress with
  | nil =>
      refine ⟨fun _ _ => rfl, fun _ _ => rfl, ?_, ?_⟩
      · simp [WorkerSlot.result?, WorkerSlot.completion?]
      · simp [WorkerSlot.isRejected, WorkerSlot.completion?]
  | cons completion rest inductionHypothesis =>
      have addressedHere := addressed completion List.mem_cons_self
      have addressedLater : ∀ later ∈ rest, later.worker = slot.id := fun later member =>
        addressed later (List.mem_cons_of_mem _ member)
      rw [List.foldl_cons]
      cases named : slot.isNamedBy completion with
      | false =>
          have skipped : slot.completion? (completion :: rest) = slot.completion? rest :=
            List.find?_cons_of_neg (by simp [named])
          rw [accept_of_unnamed found addressedHere named]
          let stale : Progress :=
            { progress with yield := { progress.yield with stale := progress.yield.stale + 1 } }
          have same : stale.pool.slot? slot.id = some slot := found
          have later := inductionHypothesis same addressedLater
          refine ⟨later.slots, later.verdicts, ?_, ?_⟩
          · have results := later.results
            unfold WorkerSlot.result? at results ⊢
            rw [skipped]
            exact results
          · have untrusted := later.untrusted
            unfold WorkerSlot.isRejected at untrusted ⊢
            rw [skipped]
            exact untrusted
      | true =>
          obtain ⟨serves, vacated, number, inactive, vacant⟩ :=
            serves_accept found addressedHere named rest round
          rw [← number] at vacant addressedLater
          exact serves.trans (inductionHypothesis vacant addressedLater) number inactive

section Poll

variable {collector : Collector} {pool : WorkerPool} {said : WorkId → Option Bool}
  {order : List WorkerSlot}

/-- Slots of different workers with different items. -/
def Apart (first second : WorkerSlot) : Prop :=
  first.id ≠ second.id ∧
    ∀ work, first.activeWork? = some work → second.activeWork? ≠ some work

/-- The workers are served one after the other, each from its own slot. -/
theorem foldl_order (completions : List Completion) (round : Round)
    (apart : order.Pairwise Apart)
    (slots : ∀ slot ∈ order, progress.pool.slot? slot.id = some slot)
    (verdicts : ∀ slot ∈ order, ∀ work, slot.activeWork? = some work →
      progress.collector.verdicts.find? work = said work) :
    ((order.map (·.id)).flatMap fun worker =>
        completions.filter fun completion => completion.worker == worker).foldl
      (fun progress completion => progress.accept round completion) progress = served →
    served.yield.results =
        progress.yield.results ++ order.filterMap (·.result? completions said round) ∧
      served.yield.untrusted =
        progress.yield.untrusted ++ (order.filter (·.isRejected completions said)).map (·.id) := by
  induction order generalizing progress with
  | nil =>
      rintro rfl
      simp
  | cons slot rest inductionHypothesis =>
      intro last
      obtain ⟨apartHere, apartLater⟩ := List.pairwise_cons.1 apart
      have here : slot ∈ slot :: rest := List.mem_cons_self
      let own := completions.filter fun completion => completion.worker == slot.id
      let middle := own.foldl (fun progress completion => progress.accept round completion) progress
      have serves : Serves own round slot progress middle :=
        serves_foldl (slots slot here) (by simp [own])
      have slotsLater : ∀ other ∈ rest, middle.pool.slot? other.id = some other := by
        intro other member
        rw [serves.slots other.id (apartHere other member).1.symm]
        exact slots other (List.mem_cons_of_mem _ member)
      have verdictsLater : ∀ other ∈ rest, ∀ work, other.activeWork? = some work →
          middle.collector.verdicts.find? work = said work := by
        intro other member work works
        have different : slot.activeWork? ≠ some work := fun same =>
          (apartHere other member).2 work same works
        rw [serves.verdicts work different]
        exact verdicts other (List.mem_cons_of_mem _ member) work works
      rw [List.map_cons, List.flatMap_cons, List.foldl_append] at last
      obtain ⟨results, untrusted⟩ :=
        inductionHypothesis apartLater slotsLater verdictsLater last
      have result := serves.results
      have rejected := serves.untrusted
      rw [slot.result?_filter, WorkerSlot.result?_congr (verdicts slot here)] at result
      rw [slot.isRejected_filter, WorkerSlot.isRejected_congr (verdicts slot here)] at rejected
      constructor
      · rw [results, result, List.filterMap_cons]
        cases slot.result? completions said round <;> simp
      · rw [untrusted, rejected, List.filter_cons]
        split <;> simp

/-- Every worker has its turn. -/
theorem serviceOrder_perm (cursor : Option WorkerId) {size : Nat} (inhabited : 0 < size) :
    (serviceOrder cursor size).Perm (List.range size) := by
  unfold serviceOrder
  dsimp only
  obtain ⟨start, isStart⟩ : ∃ start, start = cursor.elim 0 fun last => (last + 1) % size :=
    ⟨_, rfl⟩
  have inside : start ≤ size := by
    rw [isStart]
    cases cursor with
    | none => exact Nat.zero_le _
    | some last => exact Nat.le_of_lt (Nat.mod_lt _ inhabited)
  rw [← isStart]
  have split : List.range size = List.range start ++ List.range' start (size - start) := by
    rw [List.range_eq_range', List.range_eq_range']
    have joined := List.range'_append_1 (s := 0) (m := start) (n := size - start)
    rw [Nat.zero_add, Nat.add_sub_cancel' inside] at joined
    exact joined.symm
  rw [split]
  exact List.perm_append_comm

/-- If no two workers hold items of the same number, the slots are apart. -/
theorem pairwise_apart (sound : pool.Sound) (distinct : pool.works.Nodup) :
    pool.slots.Pairwise Apart := by
  have numbers : pool.slots.Pairwise fun first second => first.id ≠ second.id :=
    sound.pairwise_slots.imp Nat.ne_of_lt
  rw [← sound.coe_worksInFlight, Multiset.coe_nodup, WorkerPool.worksInFlight, List.Nodup,
    List.pairwise_filterMap] at distinct
  refine numbers.imp₂ (fun first second different apart => ⟨different, ?_⟩) distinct
  intro work worksFirst worksSecond
  exact apart work worksFirst work worksSecond rfl

/-- Two slots are apart in either order. -/
theorem Apart.symm {first second : WorkerSlot} (apart : Apart first second) :
    Apart second first :=
  ⟨apart.1.symm, fun work worksSecond worksFirst => apart.2 work worksFirst worksSecond⟩

/-- Looking up all numbers finds all slots. -/
theorem filterMap_slot?_range (pool : WorkerPool) :
    (List.range pool.size).filterMap pool.slot? = pool.slots := by
  have found : (List.range pool.size).map pool.slot? = pool.slots.map some := by
    apply List.ext_getElem
    · simp [WorkerPool.size]
    · intro place inside _
      have within : place < pool.slots.length := by simpa [WorkerPool.size] using inside
      simp [WorkerPool.slot?, within]
  calc
    (List.range pool.size).filterMap pool.slot? =
        ((List.range pool.size).map pool.slot?).filterMap id := by rw [List.filterMap_map]; rfl
    _ = (pool.slots.map some).filterMap id := by rw [found]
    _ = pool.slots := by rw [List.filterMap_map]; exact List.filterMap_some

/-- The slots in the order of service have their numbers in this order. -/
theorem map_id_filterMap_slot? (sound : pool.Sound) {workers : List WorkerId}
    (inside : ∀ worker ∈ workers, worker < pool.size) :
    (workers.filterMap pool.slot?).map (·.id) = workers := by
  rw [List.map_filterMap]
  have numbered : ∀ worker ∈ workers, (pool.slot? worker).map (·.id) = some worker := by
    intro worker member
    have found : pool.slot? worker = some _ := List.getElem?_eq_getElem (inside worker member)
    rw [found, Option.map_some, sound.number found]
  rw [List.filterMap_congr numbered, List.filterMap_some]

/-- A poll yields the results of the slots, in some order of the workers. -/
theorem exists_order_poll (sound : pool.Sound) (distinct : pool.works.Nodup)
    (collector : Collector) (completions : List Completion) (round : Round) :
    ∃ order : List WorkerSlot, order.Perm pool.slots ∧
      (collector.poll completions pool round).yield.results =
        order.filterMap (·.result? completions collector.verdicts.find? round) ∧
      (collector.poll completions pool round).yield.untrusted =
        (order.filter (·.isRejected completions collector.verdicts.find?)).map (·.id) := by
  by_cases inhabited : 0 < pool.size
  · have turns := serviceOrder_perm collector.cursor inhabited
    let order := (serviceOrder collector.cursor pool.size).filterMap pool.slot?
    have perm : order.Perm pool.slots := by
      have perm := turns.filterMap pool.slot?
      rwa [filterMap_slot?_range] at perm
    have numbers : order.map (·.id) = serviceOrder collector.cursor pool.size :=
      map_id_filterMap_slot? sound fun worker member => List.mem_range.1 (turns.mem_iff.1 member)
    have apart : order.Pairwise Apart :=
      (perm.pairwise_iff fun apart => apart.symm).2 (pairwise_apart sound distinct)
    have occupied : pool.slots.isEmpty = false := by
      cases slots : pool.slots with
      | nil => simp [WorkerPool.size, slots] at inhabited
      | cons => rfl
    let first : Progress :=
      { collector := collector
        pool := pool
        yield := { stale := completions.countP fun completion => pool.size ≤ completion.worker } }
    have slots : ∀ slot ∈ order, first.pool.slot? slot.id = some slot := fun slot member =>
      sound.found (perm.mem_iff.1 member)
    refine ⟨order, perm, ?_⟩
    unfold poll inServiceOrder
    rw [occupied, ← numbers]
    exact foldl_order completions round apart slots (fun _ _ _ _ => rfl) rfl
  · have empty : pool.slots = [] := List.eq_nil_of_length_eq_zero (Nat.eq_zero_of_not_pos inhabited)
    refine ⟨[], by rw [empty], ?_⟩
    unfold poll
    rw [empty]
    exact ⟨rfl, rfl⟩

end Poll

end Collector

end PoolArbiter
