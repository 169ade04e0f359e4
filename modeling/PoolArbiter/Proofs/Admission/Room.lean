import PoolArbiter.Proofs.Admission.Contents

/-!
# Room in the queues

`AdmissionQueues.Fits settings` says that the tiers have the capacity and the headroom of
their settings and hold no more than both together. Every operation on the queues keeps it.
The limit of a tier is its capacity and its headroom if these add up to a word, and less
otherwise. In sorted queues the depth of a tier counts the items of that tier, wherever they
wait.
-/

namespace PoolArbiter

/-- The depth at which a tier with these settings takes no item back. -/
def QueueSettings.limitFor (settings : QueueSettings) (tier : Tier) : Nat :=
  Word.wrap (settings.capacityFor tier + settings.reclaimHeadroom)

/-- In every tier the capacity and the headroom add up to a word. -/
def QueueSettings.Limited (settings : QueueSettings) : Prop :=
  ∀ tier, settings.capacityFor tier + settings.reclaimHeadroom ≤ Binary64.greatestWord

/-- Where capacity and headroom add up to a word, the limit is their sum. -/
theorem QueueSettings.Limited.limitFor_eq {settings : QueueSettings} (limited : settings.Limited)
    (tier : Tier) :
    settings.limitFor tier = settings.capacityFor tier + settings.reclaimHeadroom :=
  Word.wrap_eq_self (limited tier)

namespace AdmissionQueues

/-- Capacity and headroom are those of the settings, and no tier holds more than both. -/
structure Fits (settings : QueueSettings) (queues : AdmissionQueues) : Prop where
  capacity : ∀ tier, queues.capacity tier = settings.capacityFor tier
  headroom : ∀ tier, queues.headroom tier = settings.reclaimHeadroom
  depth : ∀ tier, queues.depth tier ≤ queues.capacity tier + queues.headroom tier

variable {settings : QueueSettings} {queues next : AdmissionQueues} {item : WorkItem}
  {tier : Tier}

/-- The limit is never above capacity and headroom. -/
theorem limit_le (queues : AdmissionQueues) (tier : Tier) :
    queues.limit tier ≤ queues.capacity tier + queues.headroom tier :=
  Word.wrap_le _

/-- The limit of a tier is the one that the settings give it. -/
theorem Fits.limit_eq (fits : queues.Fits settings) (tier : Tier) :
    queues.limit tier = settings.limitFor tier := by
  rw [limit, fits.capacity, fits.headroom, QueueSettings.limitFor]

/-- Items do not change a capacity. -/
theorem capacity_withItems (queues : AdmissionQueues) (written read : Tier)
    (items : List WorkItem) :
    (queues.withItems written items).capacity read = queues.capacity read := by
  by_cases same : read = written <;> simp [withItems, AdmissionQueues.capacity, same]

/-- Items do not change the headroom. -/
theorem headroom_withItems (queues : AdmissionQueues) (written read : Tier)
    (items : List WorkItem) :
    (queues.withItems written items).headroom read = queues.headroom read := by
  by_cases same : read = written <;> simp [withItems, AdmissionQueues.headroom, same]

/-- What is written last stays. -/
theorem withItems_withItems (queues : AdmissionQueues) (tier : Tier)
    (first second : List WorkItem) :
    (queues.withItems tier first).withItems tier second = queues.withItems tier second := by
  cases tier <;> rfl

/-- Writing what a tier holds changes nothing. -/
theorem withItems_items (queues : AdmissionQueues) (tier : Tier) :
    queues.withItems tier (queues.items tier) = queues := by
  cases tier <;> rfl

/-- Fresh queues fit their settings. -/
theorem fits_fresh (settings : QueueSettings) (window payloadLimit : Nat) :
    (fresh settings window payloadLimit).Fits settings where
  capacity := by simp [AdmissionQueues.capacity, fresh]
  headroom := by simp [AdmissionQueues.headroom, fresh]
  depth := by simp [AdmissionQueues.depth, AdmissionQueues.items, fresh]

namespace Fits

/-- The starvation guard does not matter. -/
theorem withGuard (fits : queues.Fits settings) (guard : StarvationGuard) :
    { queues with guard := guard : AdmissionQueues }.Fits settings :=
  ⟨fits.capacity, fits.headroom, fits.depth⟩

/-- Queues that fit stay so if a queue is given no more items than capacity and headroom allow. -/
theorem withItems (fits : queues.Fits settings) {items : List WorkItem}
    (room : items.length ≤ queues.capacity tier + queues.headroom tier) :
    (queues.withItems tier items).Fits settings where
  capacity read := by rw [capacity_withItems, fits.capacity]
  headroom read := by rw [headroom_withItems, fits.headroom]
  depth read := by
    rw [capacity_withItems, headroom_withItems, AdmissionQueues.depth, items_withItems]
    split
    next same => exact same ▸ room
    next => exact fits.depth read

/-- A tier that loses items has room. -/
theorem shorten (fits : queues.Fits settings) {items : List WorkItem}
    (shorter : items.length ≤ queues.depth tier) : (queues.withItems tier items).Fits settings :=
  fits.withItems (shorter.trans (fits.depth tier))

/-- Admission keeps the queues within capacity and headroom. -/
theorem enqueue (fits : queues.Fits settings) (accepted : queues.enqueue item = .ok next) :
    next.Fits settings := by
  have room := depth_lt_of_enqueue accepted
  rw [enqueue_eq_ok accepted]
  refine fits.withItems ?_
  rw [List.length_append, List.length_singleton]
  exact Nat.le_add_right_of_le room

/-- Queueing an item again keeps the queues within capacity and headroom. -/
theorem requeue? (fits : queues.Fits settings) (accepted : queues.requeue? item = some next) :
    next.Fits settings := by
  have room := requeue?_eq_none_iff.not.1 (accepted ▸ Option.some_ne_none next)
  rw [requeue?_eq_some accepted]
  exact fits.withItems ((Nat.lt_of_not_le room).trans_le (queues.limit_le item.tier))

/-- A pop keeps the queues within capacity and headroom. -/
theorem popFrom? (fits : queues.Fits settings)
    (popped : queues.popFrom? tier = some (item, next)) : next.Fits settings := by
  obtain ⟨rest, items, rfl⟩ := popFrom?_eq_some_iff.1 popped
  refine (fits.shorten ?_).withGuard _
  rw [AdmissionQueues.depth, items]
  exact Nat.le_succ _

/-- A withdrawal keeps the queues within capacity and headroom. -/
theorem withdraw? {work : WorkId} (fits : queues.Fits settings)
    (withdrawn : queues.withdraw? work = some (item, next)) : next.Fits settings := by
  obtain ⟨_, tier, before, after, items, rfl⟩ := withdraw?_eq_some withdrawn
  refine fits.shorten ?_
  rw [AdmissionQueues.depth, items]
  simp

end Fits

/-- In sorted queues the items of a tier are those that wait in it. -/
theorem Sorted.countP_contents (sorted : queues.Sorted) (tier : Tier) :
    queues.contents.countP (·.tier = tier) = queues.depth tier := by
  have own : ∀ other, (queues.items other).countP (·.tier = tier) =
      if other = tier then queues.depth tier else 0 := by
    intro other
    split
    next same =>
      subst same
      exact List.countP_eq_length.2 fun item member => decide_eq_true (sorted member)
    next different =>
      refine List.countP_eq_zero.2 fun item member => ?_
      simpa [sorted member] using different
  simp only [contents_eq_sum, Multiset.countP_add, Multiset.coe_countP, own]
  cases tier <;> simp

end AdmissionQueues

end PoolArbiter
