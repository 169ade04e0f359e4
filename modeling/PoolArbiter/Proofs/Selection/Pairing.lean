import PoolArbiter.Proofs.Selection.Serving

/-!
# A selection is all or nothing

`Policy.Pairs` says what a selection has to be, and `Policy.select?_eq_some_iff` that it is
this and nothing else: a policy selects below the cap exactly the pair that it has to.

Choosing has effects of its own. The cursor moves as soon as a worker is chosen, before any
queue is asked for an item. `Policy.attempt` applies the effects one by one and keeps those
that were done when it fails; `Policy.attempt_eq` says that this never leaves half a
selection behind.
-/

namespace PoolArbiter

namespace AdmissionQueues

variable {queues rest : AdmissionQueues} {tier : Tier} {item : WorkItem}

/-- Take the first item of a tier away, if there is one. Only then does the guard note the
service. -/
def drawFrom (queues : AdmissionQueues) (tier : Tier) : Option WorkItem × AdmissionQueues :=
  let drawn := queues.head? tier
  let left := queues.withItems tier (queues.items tier).tail
  (drawn, if drawn.isSome then { left with guard := left.guard.markServiced tier } else left)

/-- A tier that pops an item draws it. -/
theorem drawFrom_of_popFrom? (popped : queues.popFrom? tier = some (item, rest)) :
    queues.drawFrom tier = (some item, rest) := by
  obtain ⟨others, items, rfl⟩ := popFrom?_eq_some_iff.1 popped
  simp [drawFrom, head?, items, withItems]

end AdmissionQueues

namespace Policy

variable {policy : Policy} {queues : AdmissionQueues} {pool : WorkerPool} {cap : Nat}
  {selection other : Selection}

/-- What a policy has to select, whatever the way to find it. -/
structure Pairs (policy : Policy) (queues : AdmissionQueues) (pool : WorkerPool)
    (selection : Selection) : Prop where
  /-- The worker is eligible, and no eligible one comes before it in the order of the policy. -/
  worker : ∃ slot ∈ pool.slots, slot.id = selection.worker ∧ slot.isEligible = true ∧
    ∀ other ∈ pool.slots, other.isEligible = true →
      policy.key pool.size slot ≤ policy.key pool.size other
  /-- The tier that the policy serves gives the item, and the queues are left so. -/
  item : ∃ tier, policy.Serves queues tier ∧ queues.Gives tier selection.item selection.queues
  /-- Only the cursor of the policy moves. -/
  policy : selection.policy = policy.afterChoosing pool selection.worker

/-- What a policy has to select is determined. -/
theorem Pairs.unique (pairs : policy.Pairs queues pool selection)
    (pairsToo : policy.Pairs queues pool other) : selection = other := by
  have sameWorker : selection.worker = other.worker := by
    obtain ⟨slot, listed, number, eligible, least⟩ := pairs.worker
    obtain ⟨slotToo, listedToo, numberToo, eligibleToo, leastToo⟩ := pairsToo.worker
    have same := le_antisymm (least slotToo listedToo eligibleToo)
      (leastToo slot listed eligible)
    calc selection.worker
        = slot.id := number.symm
      _ = slotToo.id := congrArg (fun place => (ofLex place).2) same
      _ = other.worker := numberToo
  obtain ⟨tier, serves, gives⟩ := pairs.item
  obtain ⟨tierToo, servesToo, givesToo⟩ := pairsToo.item
  have sameTier : tier = tierToo :=
    Option.some.inj ((tier?_eq_some_iff.2 serves).symm.trans (tier?_eq_some_iff.2 servesToo))
  obtain ⟨sameItem, sameQueues⟩ := gives.unique (sameTier ▸ givesToo)
  have samePolicy : selection.policy = other.policy := by
    rw [pairs.policy, pairsToo.policy, sameWorker]
  cases selection
  cases other
  simp_all only

/-- A selection pairs the item and the worker that the policy prescribes. -/
theorem pairs_of_select? (numbered : pool.Numbered)
    (selected : policy.select? queues pool cap = some selection) :
    policy.Pairs queues pool selection := by
  obtain ⟨_, chosen, ⟨tier, served, popped⟩, moved⟩ := select?_eq_some selected
  constructor
  case worker =>
    obtain ⟨slot, member, number, least⟩ := key_le_of_worker? numbered chosen
    obtain ⟨listed, eligible⟩ := List.mem_filter.1 member
    exact ⟨slot, listed, number, eligible,
      fun other present ready => least other (List.mem_filter.2 ⟨present, ready⟩)⟩
  case item =>
    exact ⟨tier, tier?_eq_some_iff.1 served, AdmissionQueues.popFrom?_eq_some_iff_gives.1 popped⟩
  case policy => exact moved

/-- Something is selected exactly if the cap is not reached, an item waits and a worker is
eligible. -/
theorem exists_select?_iff :
    (∃ selection, policy.select? queues pool cap = some selection) ↔
      pool.activeCount < cap ∧ (∃ tier, queues.items tier ≠ []) ∧
        ∃ slot ∈ pool.slots, slot.isEligible = true := by
  have waits : queues.contents ≠ 0 ↔ ∃ tier, queues.items tier ≠ [] := by
    rw [Ne, AdmissionQueues.contents_eq_zero_iff, not_forall]
    simp only [AdmissionQueues.depth_eq_zero_iff, Ne]
  have eligible : pool.eligibleSlots ≠ [] ↔ ∃ slot ∈ pool.slots, slot.isEligible = true := by
    simp [WorkerPool.eligibleSlots]
  rw [← Option.ne_none_iff_exists', Ne, select?_eq_none_iff, not_or, not_or, Nat.not_le]
  rw [← waits, ← eligible]

/-- A policy selects, below the cap, what it has to and nothing else. -/
theorem select?_eq_some_iff (numbered : pool.Numbered) :
    policy.select? queues pool cap = some selection ↔
      pool.activeCount < cap ∧ policy.Pairs queues pool selection := by
  constructor
  · intro selected
    exact ⟨(select?_eq_some selected).1, pairs_of_select? numbered selected⟩
  · rintro ⟨below, pairs⟩
    have waits : ∃ tier, queues.items tier ≠ [] := by
      obtain ⟨tier, _, gives⟩ := pairs.item
      exact ⟨tier, by simp [gives.head]⟩
    have ready : ∃ slot ∈ pool.slots, slot.isEligible = true := by
      obtain ⟨slot, listed, _, eligible, _⟩ := pairs.worker
      exact ⟨slot, listed, eligible⟩
    obtain ⟨found, selected⟩ := exists_select?_iff.2 ⟨below, waits, ready⟩
    rw [selected, (pairs_of_select? numbered selected).unique pairs]

section Attempt

/-- One attempt at a selection, effect by effect: what was found, with the policy and the
queues as they are left. The cursor moves before an item is looked for. -/
def attempt (policy : Policy) (queues : AdmissionQueues) (pool : WorkerPool) (cap : Nat) :
    Option (WorkItem × WorkerId) × Policy × AdmissionQueues :=
  if cap ≤ pool.activeCount || queues.isEmpty then
    (none, policy, queues)
  else
    match policy.worker? pool with
    | none => (none, policy, queues)
    | some worker =>
        let moved := policy.afterChoosing pool worker
        match moved.tier? queues with
        | none => (none, moved, queues)
        | some tier =>
            let (drawn, left) := queues.drawFrom tier
            (drawn.map (·, worker), moved, left)

/-- The cursor has no part in which tier is served. -/
theorem tier?_afterChoosing (worker : WorkerId) :
    (policy.afterChoosing pool worker).tier? queues = policy.tier? queues := by
  cases policy <;> rfl

/-- An attempt has all the effects of a selection or none: a policy whose cursor has moved
finds a tier to serve, and that tier has an item to give. -/
theorem attempt_eq (policy : Policy) (queues : AdmissionQueues) (pool : WorkerPool) (cap : Nat) :
    policy.attempt queues pool cap =
      match policy.select? queues pool cap with
      | none => (none, policy, queues)
      | some selection =>
          (some (selection.item, selection.worker), selection.policy, selection.queues) := by
  unfold attempt
  cases selected : policy.select? queues pool cap with
  | some selection =>
      obtain ⟨below, chosen, ⟨tier, served, popped⟩, moved⟩ := select?_eq_some selected
      have waits : queues.isEmpty = false := by
        have positive := depth_pos_of_tier? served
        cases empty : queues.isEmpty with
        | false => rfl
        | true =>
            rw [AdmissionQueues.isEmpty, beq_iff_eq, AdmissionQueues.totalDepth_eq_zero_iff,
              AdmissionQueues.contents_eq_zero_iff] at empty
            exact absurd (empty tier) positive.ne'
      simp only [Nat.not_le.2 below, waits, decide_false, Bool.or_false, Bool.false_eq_true,
        if_false, chosen, tier?_afterChoosing, served, moved,
        AdmissionQueues.drawFrom_of_popFrom? popped, Option.map_some]
  | none =>
      -- Each of the three reasons stops the attempt before its first effect.
      rcases select?_eq_none_iff.1 selected with closed | empty | unmanned
      · simp [closed]
      · simp [AdmissionQueues.isEmpty, AdmissionQueues.totalDepth_eq_zero_iff.2 empty]
      · simp [worker?_eq_none_iff.2 unmanned]

end Attempt

/-- A selection meets its specification and is all or nothing. -/
structure SelectsAllOrNothing (policy : Policy) (queues : AdmissionQueues) (pool : WorkerPool)
    (cap : Nat) : Prop where
  /-- A pair is returned exactly if the workers at work are fewer than the cap, an item waits
  in some tier, and some worker is eligible. -/
  returns : (∃ selection, policy.select? queues pool cap = some selection) ↔
    pool.activeCount < cap ∧ (∃ tier, queues.items tier ≠ []) ∧
      ∃ slot ∈ pool.slots, slot.isEligible = true
  /-- What is returned is the pair that the policy has to select, and the effects of the
  attempt are those of the selection. -/
  pairs : ∀ selection, policy.select? queues pool cap = some selection →
    policy.Pairs queues pool selection ∧
      policy.attempt queues pool cap =
        (some (selection.item, selection.worker), selection.policy, selection.queues)
  /-- An attempt that returns nothing has no effect. -/
  leaves : policy.select? queues pool cap = none →
    policy.attempt queues pool cap = (none, policy, queues)

end Policy

end PoolArbiter
