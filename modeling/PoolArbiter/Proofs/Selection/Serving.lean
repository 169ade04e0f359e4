import PoolArbiter.Proofs.Selection.Ranking

/-!
# Which tier is served, and what it gives

`Policy.Serves` says which tier a policy serves without saying how it is found: the overdue
one, else under load balancing the one whose first item is oldest, else the first that waits.
`AdmissionQueues.Gives` says what the service of a tier changes: its first item leaves, the
guard notes the tier, and nothing else is different. Both determine what they speak of, by
`Policy.tier?_eq_some_iff` and `AdmissionQueues.popFrom?_eq_some_iff_gives`.
-/

namespace PoolArbiter

/-- Of elements in the order of their places, the least one by a key is the least one by the key
and the place. -/
theorem key_place_leastBy?_le {α κ ρ : Type} [LinearOrder κ] [LinearOrder ρ] {key : α → κ}
    {place : α → ρ} {before : α → α → Bool} {items : List α} {least : α}
    (compares : ∀ first second, before first second = decide (key first < key second))
    (ordered : items.Pairwise fun first second => place first < place second)
    (found : leastBy? before items = some least) :
    ∀ item ∈ items, (toLex (key least, place least) : κ ×ₗ ρ) ≤ toLex (key item, place item) := by
  obtain ⟨earlier, later, rfl, greater, atLeast⟩ := exists_split_leastBy? compares found
  obtain ⟨behind, _⟩ := List.pairwise_cons.1 (List.pairwise_append.1 ordered).2.1
  intro item member
  rw [Prod.Lex.toLex_le_toLex]
  rcases List.mem_append.1 member with early | late
  · exact .inl (greater item early)
  · rcases List.mem_cons.1 late with rfl | last
    · exact .inr ⟨rfl, le_rfl⟩
    · rcases (atLeast item last).lt_or_eq with less | tie
      · exact .inl less
      · exact .inr ⟨tie, (behind item last).le⟩

namespace Tier

variable {tier other : Tier} {test : Tier → Bool}

/-- A tier is known by its rank. -/
theorem eq_of_rank_eq (same : tier.rank = other.rank) : tier = other := by
  have found := congrArg ofRank? same
  rwa [ofRank?_rank, ofRank?_rank, Option.some.injEq] at found

/-- The tiers are listed in the order of their ranks. -/
theorem pairwise_all : all.Pairwise fun first second => first.rank < second.rank := by
  decide

/-- The first tier that passes a test is the one of least rank. -/
theorem find?_all_eq_some_iff :
    all.find? test = some tier ↔
      test tier = true ∧ ∀ other, test other = true → tier.rank ≤ other.rank := by
  have least : ∀ {found}, all.find? test = some found →
      test found = true ∧ ∀ other, test other = true → found.rank ≤ other.rank := by
    intro found first
    obtain ⟨passes, earlier, later, split, refused⟩ := List.find?_eq_some_iff_append.1 first
    refine ⟨passes, fun other passesToo => ?_⟩
    have ordered := pairwise_all
    have listed := other.mem_all
    rw [split] at ordered listed
    rcases List.mem_append.1 listed with early | late
    · have failed := refused other early
      rw [passesToo] at failed
      cases failed
    · rcases List.mem_cons.1 late with rfl | behind
      · exact Nat.le_refl _
      · exact (List.rel_of_pairwise_cons (List.pairwise_append.1 ordered).2.1 behind).le
  refine ⟨least, fun ⟨passes, first⟩ => ?_⟩
  cases result : all.find? test with
  | none =>
      have refused := List.find?_eq_none.1 result tier tier.mem_all
      exact absurd passes refused
  | some found =>
      obtain ⟨passesToo, firstToo⟩ := least result
      rw [eq_of_rank_eq (Nat.le_antisymm (firstToo tier passes) (first found passesToo))]

end Tier

namespace StarvationGuard

variable {guard : StarvationGuard} {depths : PerTier Nat} {tier : Tier}

/-- A tier is overdue if it waits and was not served in this window, no such tier comes before
it, and the window has no more rounds left than the sum, as words, of the number of such tiers
and the slack. -/
structure IsOverdue (guard : StarvationGuard) (depths : PerTier Nat) (tier : Tier) : Prop where
  waits : 0 < depths.get tier
  unserved : guard.serviced.get tier = false
  first : ∀ other, 0 < depths.get other → guard.serviced.get other = false →
    tier.rank ≤ other.rank
  late : guard.window - guard.roundInWindow ≤
    Word.wrap ((guard.starved depths).length + guard.slack)

/-- The guard finds the overdue tier. -/
theorem overdue?_eq_some_iff :
    guard.overdue? depths = some tier ↔ guard.IsOverdue depths tier := by
  have head : (guard.starved depths).head? = some tier ↔
      (0 < depths.get tier ∧ guard.serviced.get tier = false) ∧
        ∀ other, 0 < depths.get other ∧ guard.serviced.get other = false →
          tier.rank ≤ other.rank := by
    rw [starved, List.head?_filter, Tier.find?_all_eq_some_iff]
    simp
  unfold overdue?
  split
  next late =>
    rw [head]
    constructor
    · rintro ⟨⟨waits, unserved⟩, first⟩
      exact ⟨waits, unserved, fun other waiting unservedToo => first other ⟨waiting, unservedToo⟩,
        late⟩
    · intro overdue
      exact ⟨⟨overdue.waits, overdue.unserved⟩,
        fun other starved => overdue.first other starved.1 starved.2⟩
  next early => exact iff_of_false (by simp) fun overdue => early overdue.late

end StarvationGuard

namespace AdmissionQueues

variable {queues before after other : AdmissionQueues} {tier : Tier} {item : WorkItem}

/-- A tier is the first that waits if an item waits there and none in a tier before it. -/
structure IsFirst (queues : AdmissionQueues) (tier : Tier) : Prop where
  waits : queues.items tier ≠ []
  first : ∀ other, queues.items other ≠ [] → tier.rank ≤ other.rank

/-- A tier holds the oldest head if its first item was submitted in the earliest round, among
those under the least number, and among those in the first tier. -/
def IsOldest (queues : AdmissionQueues) (tier : Tier) : Prop :=
  ∃ head, queues.head? tier = some head ∧ ∀ other item, queues.head? other = some item →
    (toLex (toLex (head.submittedRound, head.id), tier.rank) : (Nat ×ₗ Nat) ×ₗ Nat) ≤
      toLex (toLex (item.submittedRound, item.id), other.rank)

/-- What the service of a tier changes. -/
structure Gives (before : AdmissionQueues) (tier : Tier) (item : WorkItem)
    (after : AdmissionQueues) : Prop where
  /-- The item was the first of the tier, and the others of the tier are left. -/
  head : before.items tier = item :: after.items tier
  others : ∀ other ≠ tier, after.items other = before.items other
  /-- The guard notes the service of the tier and of no other one. -/
  serviced : ∀ other, after.guard.serviced.get other = true ↔
    other = tier ∨ before.guard.serviced.get other = true
  guard : { after.guard with serviced := before.guard.serviced } = before.guard
  capacity : ∀ other, after.capacity other = before.capacity other
  headroom : ∀ other, after.headroom other = before.headroom other
  payloadLimit : after.payloadLimit = before.payloadLimit

/-- A queue has depth if it has items. -/
theorem depth_pos_iff : 0 < queues.depth tier ↔ queues.items tier ≠ [] :=
  List.length_pos_iff

/-- The first tier that waits is found. -/
theorem firstWaiting?_eq_some_iff :
    StarvationGuard.firstWaiting? queues.depths = some tier ↔ queues.IsFirst tier := by
  rw [StarvationGuard.firstWaiting?, Tier.find?_all_eq_some_iff]
  simp only [get_depths, decide_eq_true_eq, depth_pos_iff]
  constructor
  · rintro ⟨waits, first⟩
    exact ⟨waits, first⟩
  · intro isFirst
    exact ⟨isFirst.waits, isFirst.first⟩

/-- Items are ordered by the rounds of their submission, and then by their numbers. -/
theorem submittedBefore_eq (first second : WorkItem) :
    submittedBefore first second =
      decide ((toLex (first.submittedRound, first.id) : Nat ×ₗ Nat) <
        toLex (second.submittedRound, second.id)) := by
  unfold submittedBefore
  simp only [Prod.Lex.toLex_lt_toLex]
  grind

/-- The heads are in service order. -/
theorem pairwise_heads (queues : AdmissionQueues) :
    queues.heads.Pairwise fun first second => first.1.rank < second.1.rank := by
  rw [heads, List.pairwise_filterMap]
  refine Tier.pairwise_all.imp fun {first second} earlier one isOne another isAnother => ?_
  obtain ⟨_, _, rfl⟩ := Option.map_eq_some_iff.1 isOne
  obtain ⟨_, _, rfl⟩ := Option.map_eq_some_iff.1 isAnother
  exact earlier

/-- The tier that is found to have waited longest holds the oldest head. -/
theorem isOldest_of_oldestTier? (found : queues.oldestTier? = some tier) :
    queues.IsOldest tier := by
  obtain ⟨⟨_, head⟩, least, rfl⟩ := Option.map_eq_some_iff.1 found
  refine ⟨head, mem_heads.1 (mem_of_leastBy? least), fun other item isHead => ?_⟩
  exact key_place_leastBy?_le (fun first second => submittedBefore_eq first.2 second.2)
    queues.pairwise_heads least (other, item) (mem_heads.2 isHead)

/-- Only one tier has the oldest item. -/
theorem IsOldest.unique {first second : Tier} (isOldest : queues.IsOldest first)
    (isOldestToo : queues.IsOldest second) : first = second := by
  obtain ⟨head, isHead, least⟩ := isOldest
  obtain ⟨headToo, isHeadToo, leastToo⟩ := isOldestToo
  have same := le_antisymm (least second headToo isHeadToo) (leastToo first head isHead)
  exact Tier.eq_of_rank_eq (congrArg (fun place => (ofLex place).2) same)

/-- The tier with the oldest item is found. -/
theorem oldestTier?_eq_some_iff : queues.oldestTier? = some tier ↔ queues.IsOldest tier := by
  refine ⟨isOldest_of_oldestTier?, fun isOldest => ?_⟩
  cases found : queues.oldestTier? with
  | none =>
      obtain ⟨head, isHead, _⟩ := isOldest
      have empty := depth_eq_zero_iff.1 (oldestTier?_eq_none_iff.1 found tier)
      rw [head?, empty] at isHead
      cases isHead
  | some other => rw [(isOldest_of_oldestTier? found).unique isOldest]

/-- A pop gives the first item of its tier. -/
theorem gives_of_popFrom? (popped : before.popFrom? tier = some (item, after)) :
    before.Gives tier item after := by
  obtain ⟨rest, items, rfl⟩ := popFrom?_eq_some_iff.1 popped
  constructor
  case head => simpa [AdmissionQueues.items, withItems] using items
  case others =>
    intro other different
    simp [AdmissionQueues.items, withItems, different]
  case serviced =>
    intro other
    by_cases same : other = tier <;> simp [StarvationGuard.markServiced, same]
  case guard => rfl
  case capacity =>
    intro other
    by_cases same : other = tier <;> simp [AdmissionQueues.capacity, withItems, same]
  case headroom =>
    intro other
    by_cases same : other = tier <;> simp [AdmissionQueues.headroom, withItems, same]
  case payloadLimit => rfl

/-- Queues are equal if their tiers hold the same items under the same bounds. -/
theorem eq_of_items {first second : AdmissionQueues}
    (items : ∀ tier, first.items tier = second.items tier)
    (capacity : ∀ tier, first.capacity tier = second.capacity tier)
    (headroom : ∀ tier, first.headroom tier = second.headroom tier)
    (guard : first.guard = second.guard) (limit : first.payloadLimit = second.payloadLimit) :
    first = second := by
  have tiers : first.tiers = second.tiers := by
    ext tier
    have sameItems := items tier
    have sameCapacity := capacity tier
    have sameHeadroom := headroom tier
    unfold AdmissionQueues.items at sameItems
    unfold AdmissionQueues.capacity at sameCapacity
    unfold AdmissionQueues.headroom at sameHeadroom
    cases one : first.tiers.get tier
    cases another : second.tiers.get tier
    simp_all
  cases first
  cases second
  simp_all

/-- What a tier gives is determined. -/
theorem Gives.unique {otherItem : WorkItem} (gives : before.Gives tier item after)
    (givesToo : before.Gives tier otherItem other) : item = otherItem ∧ after = other := by
  have line := gives.head.symm.trans givesToo.head
  obtain ⟨sameItem, sameRest⟩ := List.cons.inj line
  have serviced : after.guard.serviced = other.guard.serviced := by
    ext tier
    rw [Bool.eq_iff_iff, gives.serviced, givesToo.serviced]
  have guard : after.guard = other.guard := by
    have rest := gives.guard.trans givesToo.guard.symm
    calc after.guard
        = { ({ after.guard with serviced := before.guard.serviced } : StarvationGuard) with
            serviced := after.guard.serviced } := rfl
      _ = other.guard := by rw [rest, serviced]
  refine ⟨sameItem, eq_of_items (fun place => ?_) ?_ ?_ guard ?_⟩
  · by_cases same : place = tier
    · rw [same, sameRest]
    · rw [gives.others place same, givesToo.others place same]
  · exact fun place => (gives.capacity place).trans (givesToo.capacity place).symm
  · exact fun place => (gives.headroom place).trans (givesToo.headroom place).symm
  · exact gives.payloadLimit.trans givesToo.payloadLimit.symm

/-- Popping an item is giving the first one of its tier. -/
theorem popFrom?_eq_some_iff_gives :
    before.popFrom? tier = some (item, after) ↔ before.Gives tier item after := by
  refine ⟨gives_of_popFrom?, fun gives => ?_⟩
  cases popped : before.popFrom? tier with
  | none =>
      have empty := popFrom?_eq_none_iff.1 popped
      rw [gives.head] at empty
      cases empty
  | some pair =>
      obtain ⟨rfl, rfl⟩ := (gives_of_popFrom? popped).unique gives
      rfl

end AdmissionQueues

namespace Policy

/-- The tier that a policy serves. -/
inductive Serves (queues : AdmissionQueues) : Policy → Tier → Prop where
  /-- An overdue tier goes before all others. -/
  | overdue {policy tier} (isOverdue : queues.guard.IsOverdue queues.depths tier) :
      Serves queues policy tier
  /-- Load balancing serves the oldest head. -/
  | oldest {tier} (inTime : ∀ other, ¬queues.guard.IsOverdue queues.depths other)
      (isOldest : queues.IsOldest tier) : Serves queues .loadBalanced tier
  /-- Any other policy serves the first tier that waits. -/
  | first {policy tier} (unbalanced : policy ≠ .loadBalanced)
      (inTime : ∀ other, ¬queues.guard.IsOverdue queues.depths other)
      (isFirst : queues.IsFirst tier) : Serves queues policy tier

variable {policy : Policy} {queues : AdmissionQueues} {tier : Tier}

/-- The tier that a policy is found to serve is the one that it serves. -/
theorem tier?_eq_some_iff : policy.tier? queues = some tier ↔ policy.Serves queues tier := by
  unfold tier?
  cases late : queues.guard.overdue? queues.depths with
  | some overdue =>
      have isOverdue := StarvationGuard.overdue?_eq_some_iff.1 late
      rw [Option.some_or, Option.some.injEq]
      constructor
      · rintro rfl
        exact .overdue isOverdue
      · rintro (isOverdueToo | ⟨inTime, _⟩ | ⟨_, inTime, _⟩)
        · rw [StarvationGuard.overdue?_eq_some_iff.2 isOverdueToo] at late
          exact (Option.some.inj late).symm
        · exact absurd isOverdue (inTime overdue)
        · exact absurd isOverdue (inTime overdue)
  | none =>
      have inTime : ∀ other, ¬queues.guard.IsOverdue queues.depths other := by
        intro other isOverdue
        rw [StarvationGuard.overdue?_eq_some_iff.2 isOverdue] at late
        cases late
      rw [Option.none_or]
      cases policy with
      | loadBalanced =>
          dsimp only
          rw [AdmissionQueues.oldestTier?_eq_some_iff]
          refine ⟨.oldest inTime, fun serves => ?_⟩
          rcases serves with isOverdue | ⟨_, isOldest⟩ | ⟨unbalanced, _, _⟩
          · exact absurd isOverdue (inTime tier)
          · exact isOldest
          · exact absurd rfl unbalanced
      | roundRobin _ | priorityBased | performanceAware _ _ =>
          dsimp only
          rw [AdmissionQueues.firstWaiting?_eq_some_iff]
          refine ⟨.first (by simp) inTime, fun serves => ?_⟩
          rcases serves with isOverdue | _ | ⟨_, _, isFirst⟩
          · exact absurd isOverdue (inTime tier)
          · exact isFirst

end Policy

end PoolArbiter
