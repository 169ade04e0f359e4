import Mathlib.Algebra.Order.Group.Multiset
import Mathlib.Tactic.Abel
import PoolArbiter.Admission.Queues

/-!
# What the queues hold

`AdmissionQueues.contents` is everything that waits, whatever the tier and the
place in it, and `AdmissionQueues.Sorted` says that every item waits in its own
tier. Each operation adds one item to the contents or takes one out.
-/

namespace PoolArbiter.AdmissionQueues

variable {queues next : AdmissionQueues} {item : WorkItem} {tier : Tier}

/-- All items that wait. -/
def contents (queues : AdmissionQueues) : Multiset WorkItem :=
  (Tier.all.flatMap queues.items : List WorkItem)

/-- Every item waits in the queue of its own tier. -/
def Sorted (queues : AdmissionQueues) : Prop :=
  ∀ ⦃tier item⦄, item ∈ queues.items tier → item.tier = tier

/-- The contents of the queues are the items of the tiers. -/
theorem mem_contents : item ∈ queues.contents ↔ ∃ tier, item ∈ queues.items tier := by
  simp only [contents, Multiset.mem_coe, List.mem_flatMap]
  exact ⟨fun ⟨tier, _, member⟩ => ⟨tier, member⟩,
    fun ⟨tier, member⟩ => ⟨tier, tier.mem_all, member⟩⟩

/-- The contents of the queues, tier by tier. -/
theorem contents_eq_sum (queues : AdmissionQueues) :
    queues.contents =
      (queues.items .critical : Multiset WorkItem) + queues.items .high +
        queues.items .medium + queues.items .low + queues.items .background := by
  simp [contents, Tier.all, ← Multiset.coe_add, add_assoc]

/-- Replacing the items of one tier exchanges them within the contents. -/
theorem contents_withItems (queues : AdmissionQueues) (tier : Tier) (items : List WorkItem) :
    (queues.withItems tier items).contents + (queues.items tier : Multiset WorkItem) =
      queues.contents + items := by
  simp only [contents_eq_sum, items_withItems]
  cases tier <;> simp only [reduceCtorEq, ↓reduceIte] <;> abel

/-- Sorted queues stay sorted if a queue is given items of its own tier. -/
theorem Sorted.withItems (sorted : queues.Sorted) {items : List WorkItem}
    (own : ∀ item ∈ items, item.tier = tier) : (queues.withItems tier items).Sorted := by
  intro read item member
  rw [items_withItems] at member
  split at member
  next same => exact same ▸ own item member
  next => exact sorted member

/-- The number of items in all tiers counts the contents. -/
theorem card_contents (queues : AdmissionQueues) :
    queues.contents.card = queues.totalDepth := by
  rw [contents_eq_sum]
  simp only [Multiset.card_add, Multiset.coe_card]
  rfl

/-- The queues have depth zero exactly if they hold nothing. -/
theorem totalDepth_eq_zero_iff : queues.totalDepth = 0 ↔ queues.contents = 0 := by
  rw [← card_contents, Multiset.card_eq_zero]

/-- Fresh queues hold nothing. -/
@[simp]
theorem contents_fresh (settings : QueueSettings) (window payloadLimit : Nat) :
    (fresh settings window payloadLimit).contents = 0 := by
  simp [contents, fresh, items]

/-- Fresh queues are sorted. -/
theorem sorted_fresh (settings : QueueSettings) (window payloadLimit : Nat) :
    (fresh settings window payloadLimit).Sorted := by
  intro tier item member
  simp [fresh, items] at member

section Joining

/-- A new item joins at the tail of its tier. -/
theorem enqueue_eq_ok (accepted : queues.enqueue item = .ok next) :
    next = queues.withItems item.tier (queues.items item.tier ++ [item]) := by
  unfold enqueue at accepted
  split at accepted
  · cases accepted
  · split at accepted
    · cases accepted
    · exact (Except.ok.inj accepted).symm

/-- A new item is accepted only below the capacity. -/
theorem depth_lt_of_enqueue (accepted : queues.enqueue item = .ok next) :
    queues.depth item.tier < queues.capacity item.tier := by
  unfold enqueue at accepted
  split at accepted
  · cases accepted
  · split at accepted
    · cases accepted
    · exact Nat.lt_of_not_le ‹_›

/-- An admitted item joins the contents. -/
theorem contents_enqueue (accepted : queues.enqueue item = .ok next) :
    next.contents = item ::ₘ queues.contents := by
  have exchanged := contents_withItems queues item.tier (queues.items item.tier ++ [item])
  rw [← enqueue_eq_ok accepted, ← Multiset.coe_add, Multiset.coe_singleton] at exchanged
  have shuffled : queues.contents + (↑(queues.items item.tier) + {item}) =
      item ::ₘ queues.contents + ↑(queues.items item.tier) := by
    rw [← Multiset.singleton_add]
    abel
  rw [shuffled] at exchanged
  exact add_right_cancel exchanged

/-- An admitted item joins the queue of its own tier. -/
theorem Sorted.enqueue (sorted : queues.Sorted) (accepted : queues.enqueue item = .ok next) :
    next.Sorted := by
  rw [enqueue_eq_ok accepted]
  apply sorted.withItems
  intro other member
  rcases List.mem_append.1 member with old | new
  · exact sorted old
  · rw [List.mem_singleton.1 new]

/-- An item that is taken back joins at the head of its tier. -/
theorem requeue?_eq_some (accepted : queues.requeue? item = some next) :
    next = queues.withItems item.tier (item :: queues.items item.tier) := by
  unfold requeue? at accepted
  split at accepted
  · cases accepted
  · exact (Option.some.inj accepted).symm

/-- An item that is taken back is refused only if its tier has reached the limit. -/
theorem requeue?_eq_none_iff :
    queues.requeue? item = none ↔ queues.limit item.tier ≤ queues.depth item.tier := by
  unfold requeue?
  split <;> simp_all

/-- An item that is queued again joins the contents. -/
theorem contents_requeue? (accepted : queues.requeue? item = some next) :
    next.contents = item ::ₘ queues.contents := by
  have exchanged := contents_withItems queues item.tier (item :: queues.items item.tier)
  rw [← requeue?_eq_some accepted, ← Multiset.cons_coe, Multiset.add_cons,
    ← Multiset.cons_add] at exchanged
  exact add_right_cancel exchanged

/-- An item that is queued again joins the queue of its own tier. -/
theorem Sorted.requeue? (sorted : queues.Sorted) (accepted : queues.requeue? item = some next) :
    next.Sorted := by
  rw [requeue?_eq_some accepted]
  apply sorted.withItems
  intro other member
  rcases List.mem_cons.1 member with new | old
  · rw [new]
  · exact sorted old

end Joining

section Leaving

/-- The first item of a tier leaves, and the guard notes the service. -/
theorem popFrom?_eq_some_iff :
    queues.popFrom? tier = some (item, next) ↔
      ∃ rest, queues.items tier = item :: rest ∧
        next = { queues.withItems tier rest with guard := queues.guard.markServiced tier } := by
  unfold popFrom?
  split
  next empty => simp [empty]
  next head rest items =>
    rw [items]
    constructor
    · intro popped
      obtain ⟨rfl, rfl⟩ := Prod.mk.inj (Option.some.inj popped)
      exact ⟨rest, rfl, rfl⟩
    · rintro ⟨_, same, rfl⟩
      obtain ⟨rfl, rfl⟩ := List.cons.inj same
      rfl

/-- A queue gives an item unless it is empty. -/
theorem popFrom?_eq_none_iff : queues.popFrom? tier = none ↔ queues.items tier = [] := by
  unfold popFrom?
  split <;> simp_all

/-- A popped item leaves the contents. -/
theorem contents_popFrom? (popped : queues.popFrom? tier = some (item, next)) :
    queues.contents = item ::ₘ next.contents := by
  obtain ⟨rest, items, rfl⟩ := popFrom?_eq_some_iff.1 popped
  have exchanged := contents_withItems queues tier rest
  rw [items, ← Multiset.cons_coe, Multiset.add_cons, ← Multiset.cons_add] at exchanged
  exact (add_right_cancel exchanged).symm

/-- An item that is popped from a queue is of its tier. -/
theorem Sorted.popFrom? (sorted : queues.Sorted)
    (popped : queues.popFrom? tier = some (item, next)) : next.Sorted ∧ item.tier = tier := by
  obtain ⟨rest, items, rfl⟩ := popFrom?_eq_some_iff.1 popped
  refine ⟨sorted.withItems fun other member => sorted ?_, sorted ?_⟩
  · rw [items]
    exact List.mem_cons_of_mem _ member
  · rw [items]
    exact List.mem_cons_self

/-- An item that is withdrawn leaves the others of its tier in their order. -/
theorem withdraw?_eq_some {work : WorkId}
    (withdrawn : queues.withdraw? work = some (item, next)) :
    item.id = work ∧ ∃ tier before after, queues.items tier = before ++ item :: after ∧
      next = queues.withItems tier (before ++ after) := by
  simp only [withdraw?, Option.bind_eq_bind, Option.bind_eq_some_iff, pure,
    Option.some.injEq, Prod.mk.injEq] at withdrawn
  obtain ⟨tier, _, head, found, rfl, rfl⟩ := withdrawn
  obtain ⟨named, before, after, items, skipped⟩ := List.find?_eq_some_iff_append.1 found
  refine ⟨by simpa using named, tier, before, after, items, ?_⟩
  rw [items, List.eraseP_append_right _ (fun other member => by simpa using skipped other member),
    List.eraseP_cons_of_pos (by simpa using named)]

/-- A withdrawn item leaves the contents. -/
theorem contents_withdraw? {work : WorkId}
    (withdrawn : queues.withdraw? work = some (item, next)) :
    queues.contents = item ::ₘ next.contents := by
  obtain ⟨_, tier, before, after, items, rfl⟩ := withdraw?_eq_some withdrawn
  have exchanged := contents_withItems queues tier (before ++ after)
  have joined : (queues.items tier : Multiset WorkItem) = item ::ₘ ↑(before ++ after) := by
    rw [items]
    exact Multiset.coe_eq_coe.2 List.perm_middle
  rw [joined, Multiset.add_cons, ← Multiset.cons_add] at exchanged
  exact (add_right_cancel exchanged).symm

/-- A withdrawal leaves sorted queues sorted. -/
theorem Sorted.withdraw? {work : WorkId} (sorted : queues.Sorted)
    (withdrawn : queues.withdraw? work = some (item, next)) : next.Sorted := by
  obtain ⟨_, tier, before, after, items, rfl⟩ := withdraw?_eq_some withdrawn
  refine sorted.withItems fun other member => sorted ?_
  rw [items]
  exact (List.sublist_cons_self item after).append_left before |>.subset member

end Leaving

end PoolArbiter.AdmissionQueues
