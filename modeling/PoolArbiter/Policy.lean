import PoolArbiter.Admission.Queues
import PoolArbiter.Binary64
import PoolArbiter.Worker.Pool

/-!
# Assignment policies

A policy pairs a waiting item with a worker. It chooses the worker by its own
order and the item by tier, except that load balancing serves the item that has
waited longest. `Policy.select?` yields nothing when no item waits, no worker is
eligible, or the workers at work have reached the cap.
-/

namespace PoolArbiter

/-- The kinds of policy. -/
inductive PolicyKind where
  | roundRobin
  | loadBalanced
  | priorityBased
  | performanceAware
  deriving DecidableEq, Repr

namespace PolicyKind

/-- The name under which a kind is written. -/
def name : PolicyKind → String
  | .roundRobin => "round_robin"
  | .loadBalanced => "load_balanced"
  | .priorityBased => "priority_based"
  | .performanceAware => "performance_aware"

/-- The kinds in the order of their declaration. -/
def all : List PolicyKind :=
  [.roundRobin, .loadBalanced, .priorityBased, .performanceAware]

end PolicyKind

/-- A rule that pairs items with workers. -/
inductive Policy where
  /-- Workers in turn, from the cursor on. -/
  | roundRobin (cursor : WorkerId)
  /-- The least loaded worker, for the item that has waited longest. -/
  | loadBalanced
  /-- The least loaded worker, for the highest tier. -/
  | priorityBased
  /-- The worker of the least weighted sum of load and completion time. -/
  | performanceAware (loadWeight latencyWeight : Nat)
  deriving DecidableEq, Repr

namespace Policy

/-- The kind of a policy. -/
def kind : Policy → PolicyKind
  | .roundRobin _ => .roundRobin
  | .loadBalanced => .loadBalanced
  | .priorityBased => .priorityBased
  | .performanceAware _ _ => .performanceAware

/-- A new policy of a kind. -/
def ofKind (kind : PolicyKind) (loadWeight latencyWeight : Nat) : Policy :=
  match kind with
  | .roundRobin => .roundRobin 0
  | .loadBalanced => .loadBalanced
  | .priorityBased => .priorityBased
  | .performanceAware => .performanceAware loadWeight latencyWeight

/-- The policy built for a kind is of that kind. -/
@[simp]
theorem kind_ofKind (kind : PolicyKind) (loadWeight latencyWeight : Nat) :
    (ofKind kind loadWeight latencyWeight).kind = kind := by
  cases kind <;> rfl

/-- The first eligible worker at or after the cursor, going round. -/
def nextInTurn? (pool : WorkerPool) (cursor : WorkerId) : Option WorkerId :=
  ((List.range pool.size).map fun offset => (cursor + offset) % pool.size).find?
    fun worker => (pool.slot? worker).any (·.isEligible)

/-- Whether a slot comes before another one by a measure; the smaller number
breaks a tie. -/
def ranksBefore (measure : WorkerSlot → Binary64) (first second : WorkerSlot) : Bool :=
  let firstRank := (measure first).rank
  let secondRank := (measure second).rank
  firstRank < secondRank || (firstRank == secondRank && first.id < second.id)

/-- The eligible worker of least measure. -/
def leastEligible? (pool : WorkerPool) (measure : WorkerSlot → Binary64) : Option WorkerId :=
  (leastBy? (ranksBefore measure) pool.eligibleSlots).map (·.id)

/-- The weighted sum of load and completion time. -/
def score (loadWeight latencyWeight : Nat) (slot : WorkerSlot) : Binary64 :=
  slot.load * .ofFloat (Float.ofNat loadWeight) +
    slot.latency * .ofFloat (Float.ofNat latencyWeight)

/-- The worker that a policy chooses. -/
def worker? (policy : Policy) (pool : WorkerPool) : Option WorkerId :=
  match policy with
  | .roundRobin cursor => nextInTurn? pool cursor
  | .loadBalanced => leastEligible? pool (·.load)
  | .priorityBased => leastEligible? pool (·.load)
  | .performanceAware loadWeight latencyWeight =>
      leastEligible? pool (score loadWeight latencyWeight)

/-- The policy after it chose a worker: only the cursor moves. -/
def afterChoosing (policy : Policy) (pool : WorkerPool) (worker : WorkerId) : Policy :=
  match policy with
  | .roundRobin _ => .roundRobin ((worker + 1) % pool.size)
  | other => other

/-- The item that a policy takes from the queues. -/
def item? (policy : Policy) (queues : AdmissionQueues) :
    Option (WorkItem × AdmissionQueues) :=
  match policy with
  | .loadBalanced => queues.popOldest?
  | _ => queues.popNext?

/-- An item and a worker for it, with the policy and the queues after the choice. -/
structure Selection where
  item : WorkItem
  worker : WorkerId
  policy : Policy
  queues : AdmissionQueues

/-- Choose a worker and take an item for it. -/
def select? (policy : Policy) (queues : AdmissionQueues) (pool : WorkerPool)
    (cap : Nat) : Option Selection :=
  if cap ≤ pool.activeCount || queues.isEmpty then
    none
  else do
    let worker ← policy.worker? pool
    let (item, rest) ← policy.item? queues
    return ⟨item, worker, policy.afterChoosing pool worker, rest⟩

end Policy

end PoolArbiter
