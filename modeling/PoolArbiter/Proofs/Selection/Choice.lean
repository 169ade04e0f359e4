import PoolArbiter.Policy
import PoolArbiter.Proofs.Admission.Contents
import PoolArbiter.Proofs.Worker.Soundness

/-!
# What a policy selects

`Policy.select?_eq_some` says all that a selection fixes: an eligible worker, and
the head of the tier that `Policy.tier?` names. `Policy.select?_eq_none_iff` says
that nothing is selected only if the cap is reached, no item waits, or no worker
is eligible.
-/

namespace PoolArbiter

namespace StarvationGuard

variable {guard : StarvationGuard} {depths : PerTier Nat} {tier : Tier}

/-- Starved are the tiers that wait and were not served in this window. -/
theorem mem_starved :
    tier ∈ guard.starved depths ↔ 0 < depths.get tier ∧ guard.serviced.get tier = false := by
  simp [starved, tier.mem_all]

/-- There are five tiers, so no more of them starve. -/
theorem length_starved_le (guard : StarvationGuard) (depths : PerTier Nat) :
    (guard.starved depths).length ≤ 5 :=
  List.length_filter_le _ _

/-- Where the starved tiers and the slack add up to a word, the patience is their sum. -/
theorem patience_eq
    (fits : (guard.starved depths).length + guard.slack ≤ Binary64.greatestWord) :
    guard.patience depths = (guard.starved depths).length + guard.slack :=
  Word.wrap_eq_self fits

/-- Only a waiting tier is overdue. -/
theorem depth_pos_of_overdue? (overdue : guard.overdue? depths = some tier) :
    0 < depths.get tier := by
  unfold overdue? at overdue
  split at overdue
  · exact (mem_starved.1 (List.mem_of_head? overdue)).1
  · cases overdue

/-- No tier waits if all queues are empty. -/
theorem firstWaiting?_eq_none_iff :
    firstWaiting? depths = none ↔ ∀ tier, depths.get tier = 0 := by
  simp [firstWaiting?, Tier.mem_all]

/-- The first tier that waits has items. -/
theorem depth_pos_of_firstWaiting? (first : firstWaiting? depths = some tier) :
    0 < depths.get tier := by
  simpa using List.find?_some first

end StarvationGuard

namespace AdmissionQueues

variable {queues : AdmissionQueues} {tier : Tier}

/-- The depths are those of the queues. -/
@[simp]
theorem get_depths (queues : AdmissionQueues) (tier : Tier) :
    queues.depths.get tier = queues.depth tier :=
  PerTier.get_tabulate _ _

/-- A queue without depth is empty. -/
theorem depth_eq_zero_iff : queues.depth tier = 0 ↔ queues.items tier = [] := by
  simp [depth]

/-- Nothing is queued if no queue has depth. -/
theorem contents_eq_zero_iff : queues.contents = 0 ↔ ∀ tier, queues.depth tier = 0 := by
  simp only [Multiset.eq_zero_iff_forall_notMem, mem_contents, depth_eq_zero_iff,
    List.eq_nil_iff_forall_not_mem]
  exact ⟨fun none tier item member => none item ⟨tier, member⟩,
    fun none item ⟨tier, member⟩ => none tier item member⟩

/-- The heads are the first items of the queues. -/
theorem mem_heads {item : WorkItem} :
    (tier, item) ∈ queues.heads ↔ queues.head? tier = some item := by
  simp [heads, tier.mem_all]

/-- The tier with the oldest item has items. -/
theorem depth_pos_of_oldestTier? (oldest : queues.oldestTier? = some tier) :
    0 < queues.depth tier := by
  obtain ⟨⟨_, item⟩, least, rfl⟩ := Option.map_eq_some_iff.1 oldest
  have head := mem_heads.1 (mem_of_leastBy? least)
  exact List.length_pos_of_mem (List.mem_of_head? head)

/-- No tier has the oldest item if all queues are empty. -/
theorem oldestTier?_eq_none_iff :
    queues.oldestTier? = none ↔ ∀ tier, queues.depth tier = 0 := by
  rw [oldestTier?, Option.map_eq_none_iff, leastBy?_eq_none_iff]
  simp [heads, head?, depth, Tier.mem_all]

end AdmissionQueues

namespace Policy

variable {policy : Policy} {queues : AdmissionQueues} {pool : WorkerPool} {cap : Nat}

section Workers

variable {worker : WorkerId} {slot : WorkerSlot}

/-- Going round from any cursor passes every place. -/
theorem exists_offset {place size : Nat} (cursor : Nat) (inside : place < size) :
    ∃ offset < size, (cursor + offset) % size = place := by
  obtain ⟨start, isStart⟩ : ∃ start, start = cursor % size := ⟨_, rfl⟩
  have bounded : start < size := isStart ▸ Nat.mod_lt cursor (Nat.zero_lt_of_lt inside)
  have shift : ∀ offset, (cursor + offset) % size = (start + offset) % size := by
    intro offset
    rw [isStart, Nat.mod_add_mod]
  by_cases ahead : start ≤ place
  · refine ⟨place - start, by omega, ?_⟩
    rw [shift, Nat.add_sub_cancel' ahead, Nat.mod_eq_of_lt inside]
  · refine ⟨place + size - start, by omega, ?_⟩
    rw [shift, Nat.add_sub_cancel' (by omega), Nat.add_mod_right, Nat.mod_eq_of_lt inside]

/-- No worker is next in turn if none is eligible. -/
theorem nextInTurn?_eq_none_iff {cursor : WorkerId} :
    nextInTurn? pool cursor = none ↔ pool.eligibleSlots = [] := by
  simp only [nextInTurn?, List.find?_eq_none, List.forall_mem_map, List.mem_range,
    Option.any_eq_true, not_exists, not_and, WorkerPool.eligibleSlots, List.filter_eq_nil_iff]
  constructor
  · intro passed slot member
    obtain ⟨worker, found⟩ := List.getElem?_of_mem member
    have inside : worker < pool.size := (List.getElem?_eq_some_iff.1 found).1
    obtain ⟨offset, bounded, reached⟩ := exists_offset cursor inside
    exact passed offset bounded slot (reached.symm ▸ found)
  · intro none offset _ slot found
    exact none slot (WorkerPool.mem_of_slot? found)

/-- No worker has the least measure if none is eligible. -/
theorem leastEligible?_eq_none_iff {measure : WorkerSlot → Binary64} :
    leastEligible? pool measure = none ↔ pool.eligibleSlots = [] := by
  rw [leastEligible?, Option.map_eq_none_iff, leastBy?_eq_none_iff]

/-- A policy finds no worker if none is eligible. -/
theorem worker?_eq_none_iff : policy.worker? pool = none ↔ pool.eligibleSlots = [] := by
  cases policy with
  | roundRobin cursor => exact nextInTurn?_eq_none_iff
  | loadBalanced => exact leastEligible?_eq_none_iff
  | priorityBased => exact leastEligible?_eq_none_iff
  | performanceAware loadWeight latencyWeight => exact leastEligible?_eq_none_iff

/-- The worker next in turn is eligible. -/
theorem eligible_of_nextInTurn? {cursor : WorkerId}
    (chosen : nextInTurn? pool cursor = some worker) :
    ∃ slot, pool.slot? worker = some slot ∧ slot.isEligible = true := by
  have eligible := List.find?_some chosen
  simpa [Option.any_eq_true] using eligible

/-- The worker with the least measure is eligible. -/
theorem eligible_of_leastEligible? (numbered : pool.Numbered) {measure : WorkerSlot → Binary64}
    (chosen : leastEligible? pool measure = some worker) :
    ∃ slot, pool.slot? worker = some slot ∧ slot.isEligible = true := by
  obtain ⟨slot, least, rfl⟩ := Option.map_eq_some_iff.1 chosen
  obtain ⟨member, eligible⟩ := List.mem_filter.1 (mem_of_leastBy? least)
  exact ⟨slot, numbered.found member, eligible⟩

/-- The worker that a policy chooses is eligible. -/
theorem eligible_of_worker? (numbered : pool.Numbered)
    (chosen : policy.worker? pool = some worker) :
    ∃ slot, pool.slot? worker = some slot ∧ slot.isEligible = true := by
  cases policy with
  | roundRobin cursor => exact eligible_of_nextInTurn? chosen
  | loadBalanced => exact eligible_of_leastEligible? numbered chosen
  | priorityBased => exact eligible_of_leastEligible? numbered chosen
  | performanceAware loadWeight latencyWeight => exact eligible_of_leastEligible? numbered chosen

end Workers

section Items

variable {tier : Tier}

/-- The tier that a policy serves: the overdue one, and otherwise the tier whose
first item has waited longest or the first tier that waits. -/
def tier? (policy : Policy) (queues : AdmissionQueues) : Option Tier :=
  (queues.guard.overdue? queues.depths).or
    (match policy with
    | .loadBalanced => queues.oldestTier?
    | _ => StarvationGuard.firstWaiting? queues.depths)

/-- A policy takes the first item of the tier that it serves. -/
theorem item?_eq_bind : policy.item? queues = (policy.tier? queues).bind queues.popFrom? := by
  cases policy <;> rfl

/-- An overdue tier comes first under every policy. -/
theorem tier?_of_overdue? (overdue : queues.guard.overdue? queues.depths = some tier) :
    policy.tier? queues = some tier := by
  unfold tier?
  rw [overdue]
  rfl

/-- Only a tier in which an item waits is served. -/
theorem depth_pos_of_tier? (served : policy.tier? queues = some tier) :
    0 < queues.depth tier := by
  rcases Option.or_eq_some_iff.1 served with overdue | ⟨_, default⟩
  · simpa using StarvationGuard.depth_pos_of_overdue? overdue
  · cases policy with
    | loadBalanced => exact AdmissionQueues.depth_pos_of_oldestTier? default
    | roundRobin _ | priorityBased | performanceAware _ _ =>
        simpa using StarvationGuard.depth_pos_of_firstWaiting? default

/-- A policy finds no tier if nothing is queued. -/
theorem tier?_eq_none_iff : policy.tier? queues = none ↔ queues.contents = 0 := by
  rw [AdmissionQueues.contents_eq_zero_iff]
  constructor
  · intro unserved
    have default := (Option.or_eq_none_iff.1 unserved).2
    cases policy with
    | loadBalanced => exact AdmissionQueues.oldestTier?_eq_none_iff.1 default
    | roundRobin _ | priorityBased | performanceAware _ _ =>
        simpa using StarvationGuard.firstWaiting?_eq_none_iff.1 default
  · intro empty
    by_contra served
    obtain ⟨tier, served⟩ := Option.ne_none_iff_exists'.1 served
    exact Nat.ne_of_gt (depth_pos_of_tier? served) (empty tier)

/-- A policy finds no item if nothing is queued. -/
theorem item?_eq_none_iff : policy.item? queues = none ↔ queues.contents = 0 := by
  have unserved : policy.tier? queues = none ↔ queues.contents = 0 := tier?_eq_none_iff
  rw [item?_eq_bind, Option.bind_eq_none_iff, ← unserved]
  constructor
  · intro refused
    by_contra served
    obtain ⟨tier, served⟩ := Option.ne_none_iff_exists'.1 served
    have empty := AdmissionQueues.popFrom?_eq_none_iff.1 (refused tier served)
    exact Nat.ne_of_gt (depth_pos_of_tier? served)
      (AdmissionQueues.depth_eq_zero_iff.2 empty)
  · intro unserved tier served
    rw [unserved] at served
    cases served

end Items

/-- All that a selection fixes. -/
theorem select?_eq_some {selection : Selection}
    (selected : policy.select? queues pool cap = some selection) :
    pool.activeCount < cap ∧ policy.worker? pool = some selection.worker ∧
      (∃ tier, policy.tier? queues = some tier ∧
        queues.popFrom? tier = some (selection.item, selection.queues)) ∧
      selection.policy = policy.afterChoosing pool selection.worker := by
  unfold select? at selected
  split at selected
  · cases selected
  · next opened =>
    simp only [Bool.or_eq_true, decide_eq_true_eq, not_or, Nat.not_le] at opened
    simp only [Option.bind_eq_bind, Option.bind_eq_some_iff, pure, Option.some.injEq] at selected
    obtain ⟨worker, chosen, ⟨item, rest⟩, taken, rfl⟩ := selected
    rw [item?_eq_bind] at taken
    exact ⟨opened.1, chosen, Option.bind_eq_some_iff.1 taken, rfl⟩

/-- Nothing is selected exactly if the cap is reached, no item waits, or no worker
is eligible. -/
theorem select?_eq_none_iff :
    policy.select? queues pool cap = none ↔
      cap ≤ pool.activeCount ∨ queues.contents = 0 ∨ pool.eligibleSlots = [] := by
  unfold select?
  split
  next closed =>
    simp only [Bool.or_eq_true, decide_eq_true_eq, AdmissionQueues.isEmpty, beq_iff_eq,
      AdmissionQueues.totalDepth_eq_zero_iff] at closed
    simp only [true_iff]
    exact closed.imp_right .inl
  next opened =>
    simp only [Bool.or_eq_true, decide_eq_true_eq, not_or, AdmissionQueues.isEmpty, beq_iff_eq,
      AdmissionQueues.totalDepth_eq_zero_iff] at opened
    have unmanned : policy.worker? pool = none ↔ pool.eligibleSlots = [] :=
      worker?_eq_none_iff
    have nonempty : policy.item? queues = none ↔ queues.contents = 0 := item?_eq_none_iff
    rw [← unmanned]
    cases chosen : policy.worker? pool with
    | none => simp
    | some worker =>
        cases taken : policy.item? queues with
        | none => exact absurd (nonempty.1 taken) opened.2
        | some pair => simp [opened]

end Policy

end PoolArbiter
