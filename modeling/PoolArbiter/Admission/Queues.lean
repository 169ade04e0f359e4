import PoolArbiter.Admission.Guard
import PoolArbiter.Data.Least
import PoolArbiter.Refusal

/-!
# Admission queues

One bounded queue for each tier, with the starvation guard that decides which
tier is served. New items join at the tail up to the capacity; items taken back
from workers join at the head and may use the headroom above it. The capacity and the
headroom are added as words, and so are the capacities of all tiers.
-/

namespace PoolArbiter

/-- The queue of one tier, first item first. -/
structure TierQueue where
  items : List WorkItem
  capacity : Nat
  headroom : Nat
  deriving DecidableEq, Repr

/-- The queues of all tiers. -/
structure AdmissionQueues where
  tiers : PerTier TierQueue
  guard : StarvationGuard
  /-- Size of the largest accepted payload. -/
  payloadLimit : Nat
  deriving DecidableEq, Repr

namespace AdmissionQueues

/-- Empty queues. -/
def fresh (settings : QueueSettings) (window payloadLimit : Nat) : AdmissionQueues where
  tiers := .tabulate fun tier => ⟨[], settings.capacityFor tier, settings.reclaimHeadroom⟩
  guard := .fresh window
  payloadLimit := payloadLimit

/-- The items of a tier, first item first. -/
def items (queues : AdmissionQueues) (tier : Tier) : List WorkItem :=
  (queues.tiers.get tier).items

/-- Replace the items of a tier. -/
def withItems (queues : AdmissionQueues) (tier : Tier) (items : List WorkItem) :
    AdmissionQueues :=
  { queues with tiers := queues.tiers.modify tier ({ · with items := items }) }

/-- The capacity of a tier. -/
def capacity (queues : AdmissionQueues) (tier : Tier) : Nat :=
  (queues.tiers.get tier).capacity

/-- The headroom of a tier. -/
def headroom (queues : AdmissionQueues) (tier : Tier) : Nat :=
  (queues.tiers.get tier).headroom

/-- Number of items in a tier. -/
def depth (queues : AdmissionQueues) (tier : Tier) : Nat :=
  (queues.items tier).length

/-- Number of items in each tier. -/
def depths (queues : AdmissionQueues) : PerTier Nat :=
  .tabulate queues.depth

/-- Number of items in all tiers. -/
def totalDepth (queues : AdmissionQueues) : Nat :=
  queues.depths.total

/-- Whether no item waits. -/
def isEmpty (queues : AdmissionQueues) : Bool :=
  queues.totalDepth == 0

/-- The sum of the capacities. -/
def totalCapacity (queues : AdmissionQueues) : Nat :=
  Word.wrap (PerTier.tabulate queues.capacity).total

/-- The depth at which a tier takes no item back. -/
def limit (queues : AdmissionQueues) (tier : Tier) : Nat :=
  Word.wrap (queues.capacity tier + queues.headroom tier)

/-- Put a new item at the tail of its tier, unless its payload is unacceptable or
the tier is full. -/
def enqueue (queues : AdmissionQueues) (item : WorkItem) :
    Except Refusal AdmissionQueues :=
  match item.payload.fault? queues.payloadLimit with
  | some fault => .error (.invalidItem fault)
  | none =>
      if queues.capacity item.tier ≤ queues.depth item.tier then
        .error (.queueFull item.tier)
      else
        .ok (queues.withItems item.tier (queues.items item.tier ++ [item]))

/-- Put an item back at the head of its tier, unless the tier has reached its limit. -/
def requeue? (queues : AdmissionQueues) (item : WorkItem) : Option AdmissionQueues :=
  if queues.limit item.tier ≤ queues.depth item.tier then
    none
  else
    some (queues.withItems item.tier (item :: queues.items item.tier))

/-- The first item of a tier. -/
def head? (queues : AdmissionQueues) (tier : Tier) : Option WorkItem :=
  (queues.items tier).head?

/-- The first item of the first tier that waits. -/
def peek? (queues : AdmissionQueues) : Option WorkItem :=
  Tier.all.findSome? queues.head?

/-- Take the first item of a tier, which counts as service of the tier. -/
def popFrom? (queues : AdmissionQueues) (tier : Tier) :
    Option (WorkItem × AdmissionQueues) :=
  match queues.items tier with
  | [] => none
  | item :: rest =>
      some (item,
        { queues.withItems tier rest with guard := queues.guard.markServiced tier })

/-- The tier that the guard serves next. -/
def nextTier? (queues : AdmissionQueues) : Option Tier :=
  queues.guard.choose? queues.depths

/-- Take the first item of the tier that is served next. -/
def popNext? (queues : AdmissionQueues) : Option (WorkItem × AdmissionQueues) :=
  queues.nextTier?.bind queues.popFrom?

/-- Whether an item was submitted before another one: in an earlier round, or in
the same round under a smaller number. -/
def submittedBefore (first second : WorkItem) : Bool :=
  first.submittedRound < second.submittedRound ||
    (first.submittedRound == second.submittedRound && first.id < second.id)

/-- The tiers that wait, each with its first item. -/
def heads (queues : AdmissionQueues) : List (Tier × WorkItem) :=
  Tier.all.filterMap fun tier => (queues.head? tier).map (tier, ·)

/-- The tier whose first item has waited longest. -/
def oldestTier? (queues : AdmissionQueues) : Option Tier :=
  (leastBy? (fun first second => submittedBefore first.2 second.2) queues.heads).map (·.1)

/-- Take the first item that has waited longest, unless a tier is overdue; then
take the first item of that tier. -/
def popOldest? (queues : AdmissionQueues) : Option (WorkItem × AdmissionQueues) :=
  ((queues.guard.overdue? queues.depths).or queues.oldestTier?).bind queues.popFrom?

/-- The first tier that holds an item of this number. -/
def tierOf? (queues : AdmissionQueues) (work : WorkId) : Option Tier :=
  Tier.all.find? fun tier => (queues.items tier).any (·.id == work)

/-- Take the item of this number out of its queue. -/
def withdraw? (queues : AdmissionQueues) (work : WorkId) :
    Option (WorkItem × AdmissionQueues) := do
  let tier ← queues.tierOf? work
  let item ← (queues.items tier).find? (·.id == work)
  return (item, queues.withItems tier ((queues.items tier).eraseP (·.id == work)))

/-- Close a round. After a switch of policy the guard starts a new window. -/
def advance (queues : AdmissionQueues) (switched : Bool) : AdmissionQueues :=
  let next := queues.guard.advance
  { queues with guard := if switched then next.restart else next }

/-- Set the slack of the guard. -/
def withSlack (queues : AdmissionQueues) (slack : Nat) : AdmissionQueues :=
  { queues with guard := queues.guard.withSlack slack }

/-- Putting items into one queue leaves the other queues as they are. -/
@[simp]
theorem items_withItems (queues : AdmissionQueues) (written read : Tier)
    (items : List WorkItem) :
    (queues.withItems written items).items read =
      if read = written then items else queues.items read := by
  by_cases same : read = written <;> simp [withItems, AdmissionQueues.items, same]

end AdmissionQueues

end PoolArbiter
