import Mathlib.Algebra.BigOperators.Group.Multiset.Basic
import Mathlib.Algebra.Order.BigOperators.Group.Multiset
import Mathlib.Tactic.Ring
import PoolArbiter.Proofs.Round.Slots

/-!
# What is outstanding

With a limit on the time that a worker may take, every live item has an allowance
of rounds that it may still spend on workers: the rest of the current attempt, and
one more attempt if it has not failed one yet. `Controller.outstanding` is the sum
over the live items. `Shrinks` describes a change that only moves or ends items,
and such a change never adds to what is outstanding.
-/

namespace PoolArbiter

/-- An item with the rounds that its worker has had it; zero while it waits. -/
abbrev Task := WorkItem × Nat

namespace WorkerPool

variable {pool : WorkerPool} {worker : WorkerId}

/-- The tasks of the workers at work. -/
def tasks (pool : WorkerPool) (round : Round) : Multiset Task :=
  pool.gather fun slot => slot.item.map (·, slot.elapsed round)

/-- The tasks of the workers are the items that they hold. -/
theorem map_fst_tasks (pool : WorkerPool) (round : Round) :
    (pool.tasks round).map Prod.fst = pool.held := by
  simp only [tasks, held, gather, Multiset.map_coe, List.map_filterMap, Option.map_map]
  congr 2
  funext slot
  cases slot.item <;> rfl

/-- A slot that gives up its item leaves the tasks of the other slots. -/
theorem tasks_update_le {change : WorkerSlot → WorkerSlot}
    (vacated : ∀ slot, (change slot).item = none) (round : Round) :
    (pool.update worker change).tasks round ≤ pool.tasks round := by
  cases found : pool.slot? worker with
  | none => rw [update_of_slot?_eq_none found]
  | some slot =>
      have gone : (change slot).item.map (·, (change slot).elapsed round) = none := by
        rw [vacated, Option.map_none]
      cases holds : slot.item with
      | none =>
          have same : (pool.update worker change).tasks round = pool.tasks round :=
            gather_of_eq found (by rw [gone, holds, Option.map_none])
          rw [same]
      | some item =>
          have taken : pool.tasks round =
              (item, slot.elapsed round) ::ₘ (pool.update worker change).tasks round :=
            gather_of_some_none found (by rw [holds, Option.map_some]) gone
          rw [taken]
          exact Multiset.le_cons_self _ _

end WorkerPool

namespace Controller

variable (controller : Controller) (limit : Nat)

/-- The tasks of all live items. -/
def tasks : Multiset Task :=
  controller.queues.contents.map (·, 0) + controller.pool.tasks controller.round

/-- The rounds of another attempt, if no attempt at an item has failed yet. -/
def reserve (work : WorkId) : Nat :=
  if (controller.faultRetries.find? work).getD 0 = 0 then limit + 1 else 0

/-- The rounds that an item may still spend on workers. -/
def allowance (task : Task) : Nat :=
  limit + 1 - task.2 + controller.reserve limit task.1.id

/-- The allowances of all live items. -/
def outstanding : Nat :=
  (controller.tasks.map (controller.allowance limit)).sum

/-- The tasks of a controller are its live items. -/
theorem map_fst_tasks : controller.tasks.map Prod.fst = controller.live := by
  rw [tasks, live, Multiset.map_add, Multiset.map_map, WorkerPool.map_fst_tasks]
  simp

/-- No allowance is more than two attempts. -/
theorem outstanding_le_card :
    controller.outstanding limit ≤ 2 * controller.live.card * (limit + 1) := by
  have bound : ∀ task ∈ controller.tasks, controller.allowance limit task ≤ 2 * (limit + 1) := by
    intro task _
    unfold allowance reserve
    split <;> omega
  have total := Multiset.sum_le_card_nsmul (controller.tasks.map (controller.allowance limit))
    (2 * (limit + 1)) (by
      intro allowance member
      obtain ⟨task, present, rfl⟩ := Multiset.mem_map.1 member
      exact bound task present)
  rw [Multiset.card_map, nsmul_eq_mul, Nat.cast_id] at total
  rw [← map_fst_tasks, Multiset.card_map]
  calc controller.outstanding limit
      ≤ controller.tasks.card * (2 * (limit + 1)) := total
    _ = 2 * controller.tasks.card * (limit + 1) := by ring

variable {controller limit}

/-- A second attempt at an item is paid for by the reserve that it loses. -/
theorem outstanding_retry {after : Controller} {task : Task} {others : Multiset Task}
    (before : controller.tasks = task ::ₘ others)
    (afterwards : after.tasks = (task.1, 0) ::ₘ others)
    (distinct : (controller.live.map (·.id)).Nodup)
    (first : (controller.faultRetries.find? task.1.id).getD 0 = 0)
    (counts : after.faultRetries = controller.faultRetries.insert task.1.id 1) :
    after.outstanding limit ≤ controller.outstanding limit := by
  rw [← map_fst_tasks, before, Multiset.map_cons, Multiset.map_cons,
    Multiset.nodup_cons] at distinct
  have same : others.map (after.allowance limit) = others.map (controller.allowance limit) := by
    apply Multiset.map_congr rfl
    intro other member
    have different : other.1.id ≠ task.1.id := by
      intro equal
      apply distinct.1
      rw [← equal]
      exact Multiset.mem_map_of_mem _ (Multiset.mem_map_of_mem _ member)
    unfold allowance reserve
    rw [counts, KeyMap.find?_insert, if_neg different]
  have spent : after.allowance limit (task.1, 0) ≤ controller.allowance limit task := by
    unfold allowance reserve
    rw [counts, KeyMap.find?_insert, if_pos rfl, first]
    simp
  rw [outstanding, outstanding, before, afterwards, Multiset.map_cons, Multiset.map_cons,
    Multiset.sum_cons, Multiset.sum_cons, same]
  exact Nat.add_le_add_right spent _

end Controller

/-- Tasks were dropped or stayed as they are, and of the counts of failures only
those of recorded items changed. -/
structure Shrinks (before : Controller) (written : List Record) (after : Controller)
    (records : List Record) : Prop where
  tasks : after.tasks ≤ before.tasks
  noted : written ⊆ records
  retries : ∀ work, (∀ record ∈ records, record.work ≠ work) →
    after.faultRetries.find? work = before.faultRetries.find? work

namespace Shrinks

variable {before middle after : Controller} {written noted records : List Record}

/-- Changing nothing shrinks. -/
theorem refl (controller : Controller) (records : List Record) :
    Shrinks controller records controller records :=
  ⟨le_refl _, List.Subset.refl _, fun _ _ => rfl⟩

/-- Shrinking twice shrinks. -/
theorem trans (first : Shrinks before written middle noted)
    (second : Shrinks middle noted after records) : Shrinks before written after records where
  tasks := second.tasks.trans first.tasks
  noted := List.Subset.trans first.noted second.noted
  retries := by
    intro work unrecorded
    rw [second.retries work unrecorded]
    exact first.retries work fun record member => unrecorded record (second.noted member)

/-- What is outstanding does not grow, if no live item is recorded. -/
theorem outstanding_le (shrinks : Shrinks before written after records) (limit : Nat)
    (unrecorded : ∀ item ∈ after.live, ∀ record ∈ records, record.work ≠ item.id) :
    after.outstanding limit ≤ before.outstanding limit := by
  have same : after.tasks.map (after.allowance limit) =
      after.tasks.map (before.allowance limit) := by
    apply Multiset.map_congr rfl
    intro task member
    have alive : task.1 ∈ after.live := by
      rw [← Controller.map_fst_tasks]
      exact Multiset.mem_map_of_mem _ member
    unfold Controller.allowance Controller.reserve
    rw [shrinks.retries _ (unrecorded _ alive)]
  obtain ⟨dropped, tasks⟩ := Multiset.le_iff_exists_add.1 shrinks.tasks
  rw [Controller.outstanding, Controller.outstanding, same, tasks, Multiset.map_add,
    Multiset.sum_add]
  exact Nat.le_add_right _ _

end Shrinks

end PoolArbiter
