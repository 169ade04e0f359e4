import PoolArbiter.Proofs.Custody.Operations

/-!
# Every item is in exactly one place

Throughout the lifetime of a controller an admitted item waits in the queue of its
tier, is held by a worker at work, or has ended with one record. `Ledgered` is the
invariant, stated with multisets of items; `ExactlyOnce` counts the places of each
number in the queues, in the slots and among the records.
-/

namespace PoolArbiter

namespace Controller

/-- How many entries of the queues have a number. -/
def timesQueued (controller : Controller) (work : WorkId) : Nat :=
  (Tier.all.map fun tier => (controller.queues.items tier).countP (·.id = work)).sum

/-- How many workers at work hold an item of a number. -/
def timesHeld (controller : Controller) (work : WorkId) : Nat :=
  controller.pool.slots.countP (·.activeWork? = some work)

end Controller

/-- How many records are about a number. -/
def History.timesEnded (history : History) (work : WorkId) : Nat :=
  history.records.countP (·.work = work)

/-- The items that were admitted are live or ended, and their numbers are distinct
and used up. -/
structure Ledgered (history : History) (controller : Controller) : Prop where
  sound : controller.Sound
  accounted : Accounted history.admitted controller.live history.records
  numbered : ∀ item ∈ history.admitted, item.id < controller.nextId
  distinct : (history.admitted.map (·.id)).Nodup

/-- No two live items have the same number. -/
theorem Ledgered.distinct_live {history : History} {controller : Controller}
    (ledgered : Ledgered history controller) : (controller.live.map (·.id)).Nodup :=
  ledgered.accounted.distinct_live (Multiset.coe_nodup.2 ledgered.distinct)

namespace Lifetime

variable {config : Configuration} {history : History} {controller : Controller}

/-- A fresh controller holds no item. -/
theorem live_start (config : Configuration) : (Controller.start config).live = 0 := by
  rw [Controller.live]
  simp only [Controller.start, AdmissionQueues.contents_fresh, WorkerPool.held_fresh, add_zero]

/-- A fresh controller accounts for an empty history. -/
theorem ledgered_start (config : Configuration) : Ledgered [] (.start config) where
  sound := ⟨WorkerPool.sound_fresh _ _ _, AdmissionQueues.sorted_fresh _ _ _⟩
  accounted := by
    rw [live_start]
    exact Accounted.refl 0
  numbered := by simp [History.admitted]
  distinct := .nil

/-- One operation keeps the accounts. -/
theorem ledgered_step (ledgered : Ledgered history controller) (operation : Operation) :
    Ledgered (history ++ [controller.stepOf operation]) (controller.perform operation).1 := by
  have accounts := ledgered.sound.perform operation
  have admitted : History.admitted (history ++ [controller.stepOf operation]) =
      history.admitted ++ (controller.stepOf operation).admitted?.toList := by
    rw [History.admitted_append]
    cases step : (controller.stepOf operation).admitted? <;>
      simp [History.admitted, step]
  have records : History.records (history ++ [controller.stepOf operation]) =
      history.records ++ (controller.stepOf operation).records := by
    rw [History.records_append]
    simp [History.records]
  refine ⟨accounts.sound, ?_, ?_, ?_⟩
  · rw [admitted, records, ← Multiset.coe_add, add_comm (history.admitted : Multiset WorkItem)]
    exact (ledgered.accounted.enter _).trans accounts.accounted
  · intro item member
    rw [admitted, List.mem_append, Option.mem_toList] at member
    rcases member with old | new
    · exact Nat.lt_of_lt_of_le (ledgered.numbered item old) accounts.ascending
    · obtain ⟨numbered, used⟩ := accounts.numbered item new
      exact numbered ▸ used
  · rw [admitted, List.map_append, List.nodup_append]
    refine ⟨ledgered.distinct, ?_, ?_⟩
    · cases (controller.stepOf operation).admitted? <;> simp
    · intro first old second new
      obtain ⟨item, before, rfl⟩ := List.mem_map.1 old
      obtain ⟨other, after, rfl⟩ := List.mem_map.1 new
      rw [(accounts.numbered other (by simpa using after)).1]
      exact Nat.ne_of_lt (ledgered.numbered item before)

/-- Throughout a lifetime the controller accounts for its history. -/
theorem ledgered (lifetime : Lifetime config history controller) :
    Ledgered history controller := by
  induction lifetime with
  | start created => exact start_eq created ▸ ledgered_start config
  | step _ operation inductionHypothesis => exact ledgered_step inductionHypothesis operation

end Lifetime

section Counting

variable {history : History} {controller : Controller}

/-- How often a number is queued, counted tier by tier. -/
theorem count_contents (queues : AdmissionQueues) (work : WorkId) :
    (queues.contents.map (·.id)).count work =
      (Tier.all.map fun tier => (queues.items tier).countP (·.id = work)).sum := by
  rw [AdmissionQueues.contents, Multiset.map_coe, Multiset.coe_count, List.count,
    List.countP_map, List.countP_flatMap]
  rfl

/-- How often a number is held, counted over the slots. -/
theorem count_held (sound : controller.pool.Sound) (work : WorkId) :
    (controller.pool.held.map (·.id)).count work = controller.timesHeld work := by
  rw [WorkerPool.held, WorkerPool.gather, Multiset.map_coe, Multiset.coe_count, List.count,
    List.countP_map, List.countP_filterMap, Controller.timesHeld]
  apply List.countP_congr
  intro slot member
  have matched := (sound.slot member).item
  cases holds : slot.item <;> simp [WorkerSlot.activeWork?, ← matched, holds]

/-- The places of the numbers are counted by the admitted items. -/
theorem Ledgered.count_admitted (ledgered : Ledgered history controller) (work : WorkId) :
    controller.timesQueued work + controller.timesHeld work + history.timesEnded work =
      (history.admitted.map (·.id)).count work := by
  obtain ⟨ended, same, closed⟩ := ledgered.accounted
  have counted : history.timesEnded work = (ended.map (·.id)).count work := by
    rw [← Accounted.map_work_eq closed, Multiset.map_coe, Multiset.coe_count, List.count,
      List.countP_map]
    rfl
  rw [← Multiset.coe_count, ← Multiset.map_coe, same, Multiset.map_add, Multiset.count_add,
    Controller.live, Multiset.map_add, Multiset.count_add, count_contents,
    count_held ledgered.sound.pool, counted]
  rfl

end Counting

/-- Every admitted item is in exactly one place, every place names an admitted
item, and what names it agrees with the item as it was submitted. -/
structure ExactlyOnce (history : History) (controller : Controller) : Prop where
  /-- No two admitted items have the same number. -/
  distinct : (history.admitted.map (·.id)).Nodup
  /-- Each number is once in the queues, once in the slots, or in one record. -/
  onePlace : ∀ item ∈ history.admitted,
    controller.timesQueued item.id + controller.timesHeld item.id +
      history.timesEnded item.id = 1
  /-- What waits is an admitted item, unchanged, in its own tier. -/
  queued : ∀ tier, ∀ item ∈ controller.queues.items tier,
    item ∈ history.admitted ∧ item.tier = tier
  /-- What a slot holds is an admitted item, unchanged, and the worker is at work. -/
  held : ∀ slot ∈ controller.pool.slots, ∀ item ∈ slot.item,
    item ∈ history.admitted ∧ slot.isActive = true
  /-- A record repeats the admitted item that it ends. -/
  ended : ∀ record ∈ history.records, ∃ item ∈ history.admitted, record.Closes item

/-- At every point of every lifetime each admitted item is in exactly one place. -/
theorem Lifetime.exactlyOnce {config : Configuration} {history : History}
    {controller : Controller} (lifetime : Lifetime config history controller) :
    ExactlyOnce history controller := by
  have ledgered := lifetime.ledgered
  obtain ⟨ended, same, closed⟩ := ledgered.accounted
  have live : ∀ item ∈ controller.live, item ∈ history.admitted := by
    intro item member
    rw [← Multiset.mem_coe, same]
    exact Multiset.mem_add.2 (.inl member)
  refine ⟨ledgered.distinct, ?_, ?_, ?_, ?_⟩
  · intro item member
    rw [ledgered.count_admitted, ledgered.distinct.count, if_pos (List.mem_map_of_mem member)]
  · intro tier item member
    have waits := AdmissionQueues.mem_contents.2 ⟨tier, member⟩
    exact ⟨live item (Multiset.mem_add.2 (.inl waits)), ledgered.sound.queues member⟩
  · intro slot present item holds
    have held := WorkerPool.mem_gather.2 ⟨slot, present, holds⟩
    exact ⟨live item (Multiset.mem_add.2 (.inr held)),
      (ledgered.sound.pool.slot present).isActive_of_item holds⟩
  · intro record member
    obtain ⟨item, ends, closes⟩ :=
      Multiset.exists_mem_of_rel_of_mem closed (Multiset.mem_coe.2 member)
    refine ⟨item, ?_, closes⟩
    rw [← Multiset.mem_coe, same]
    exact Multiset.mem_add.2 (.inr ends)

/-- One worker, two items and three rounds: the first item ends with a result, and
the second one is then at work. -/
theorem Lifetime.exactlyOnce_after_completion :
    let start := Controller.start { pool := { workers := 1 } }
    let operations : List Operation :=
      [.submit ⟨[1]⟩ .low, .submit ⟨[2]⟩ .high, .round,
        .receive (.completion ⟨0, 2, .exhausted, .ofFloat 0⟩), .round]
    Lifetime { pool := { workers := 1 } } (start.stepsOf operations) (start.after operations) ∧
      (start.stepsOf operations).admitted.map (·.id) = [1, 2] ∧
      (start.stepsOf operations).records.map (·.work) = [2] ∧
      (start.after operations).timesHeld 1 = 1 ∧
      ExactlyOnce (start.stepsOf operations) (start.after operations) := by
  intro start operations
  have lifetime : Lifetime { pool := { workers := 1 } } (start.stepsOf operations)
      (start.after operations) := (Lifetime.start rfl).after operations
  refine ⟨lifetime, ?_, ?_, ?_, lifetime.exactlyOnce⟩ <;> decide +kernel

end PoolArbiter
