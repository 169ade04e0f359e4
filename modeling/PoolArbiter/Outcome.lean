import PoolArbiter.Work

/-!
# Ends of work items

An accepted item ends in exactly one record: a result, if a worker finished it,
or a drop with its reason.
-/

namespace PoolArbiter

/-- What a worker reports about its search. -/
inductive Outcome where
  /-- A qualifying answer, as bytes. -/
  | found (answer : List UInt8)
  /-- The range was searched without a hit. -/
  | exhausted
  deriving DecidableEq, Repr

/-- Whether the search had a hit. -/
def Outcome.isFound : Outcome → Bool
  | .found _ => true
  | .exhausted => false

/-- The record of a finished item. -/
structure WorkResult where
  work : WorkId
  worker : WorkerId
  tier : Tier
  outcome : Outcome
  submittedRound : Round
  completionRound : Round
  deriving DecidableEq, Repr

/-- The result of an item that a worker finished in a round. -/
def WorkItem.result (item : WorkItem) (worker : WorkerId) (outcome : Outcome)
    (round : Round) : WorkResult where
  work := item.id
  worker := worker
  tier := item.tier
  outcome := outcome
  submittedRound := item.submittedRound
  completionRound := round

/-- Why an item left without a result. -/
inductive DropReason where
  /-- It timed out on a worker for the second time. -/
  | retriesExhausted
  /-- Its submitter took it back from the queue. -/
  | withdrawn
  /-- It was on a worker when the pool was drained. -/
  | drained
  /-- It was taken back from a worker and its tier had no room left. -/
  | queueFull
  deriving DecidableEq, Repr

/-- The name under which a reason is written. -/
def DropReason.name : DropReason → String
  | .retriesExhausted => "dropped_after_retries"
  | .withdrawn => "withdrawn"
  | .drained => "drained"
  | .queueFull => "dropped_queue_full"

/-- The reasons in the order of their declaration. -/
def DropReason.all : List DropReason :=
  [.retriesExhausted, .withdrawn, .drained, .queueFull]

/-- The record of an item that ended without a result. -/
structure DropRecord where
  work : WorkId
  tier : Tier
  reason : DropReason
  round : Round
  deriving DecidableEq, Repr

/-- The drop of an item in a round. -/
def WorkItem.dropRecord (item : WorkItem) (reason : DropReason) (round : Round) :
    DropRecord where
  work := item.id
  tier := item.tier
  reason := reason
  round := round

end PoolArbiter
