import PoolArbiter.Outcome
import PoolArbiter.Policy

/-!
# The ledger

Counts of everything that happened since the start, and the telemetry of a round.
-/

namespace PoolArbiter

/-- One count for each reason of a drop. -/
structure DropCounts where
  retriesExhausted : Nat := 0
  withdrawn : Nat := 0
  drained : Nat := 0
  queueFull : Nat := 0
  deriving DecidableEq, Repr

namespace DropCounts

/-- The count of a reason. -/
def get (counts : DropCounts) : DropReason → Nat
  | .retriesExhausted => counts.retriesExhausted
  | .withdrawn => counts.withdrawn
  | .drained => counts.drained
  | .queueFull => counts.queueFull

/-- Count one more drop for a reason. -/
def increment (counts : DropCounts) : DropReason → DropCounts
  | .retriesExhausted => { counts with retriesExhausted := counts.retriesExhausted + 1 }
  | .withdrawn => { counts with withdrawn := counts.withdrawn + 1 }
  | .drained => { counts with drained := counts.drained + 1 }
  | .queueFull => { counts with queueFull := counts.queueFull + 1 }

/-- The drops of all reasons. -/
def total (counts : DropCounts) : Nat :=
  counts.retriesExhausted + counts.withdrawn + counts.drained + counts.queueFull

/-- Counting a drop adds one to the count of its reason and to no other. -/
@[simp]
theorem get_increment (counts : DropCounts) (counted read : DropReason) :
    (counts.increment counted).get read =
      counts.get read + if read = counted then 1 else 0 := by
  cases counted <;> cases read <;> rfl

end DropCounts

/-- Counts since the start. -/
structure Ledger where
  rounds : Nat := 0
  assigned : Nat := 0
  found : Nat := 0
  exhausted : Nat := 0
  drops : DropCounts := {}
  workerFaults : Nat := 0
  thermalPreemptions : Nat := 0
  securityReclaims : Nat := 0
  policySwitches : Nat := 0
  currentPolicy : PolicyKind := .performanceAware
  /-- Share of the workers that were at work after the last round. -/
  workerUtilization : Float := 0
  /-- Number of results of each tier. -/
  completed : PerTier Nat := .tabulate fun _ => 0
  /-- Mean number of rounds from submission to completion, for each tier. -/
  turnaround : PerTier Float := .tabulate fun _ => 0
  /-- Means of the adaptation windows, oldest first. -/
  utilizationHistory : List Float := []

namespace Ledger

/-- A running mean after one more value, which makes `count` values in all. -/
def runningMean (previous value : Float) (count : Nat) : Float :=
  if count = 1 then value
  else previous + (value - previous) / Float.ofNat count

/-- Count a result. -/
def recordResult (ledger : Ledger) (result : WorkResult) : Ledger :=
  let count := ledger.completed.get result.tier + 1
  let rounds := Float.ofNat (result.completionRound - result.submittedRound)
  { ledger with
    found := ledger.found + if result.outcome.isFound then 1 else 0
    exhausted := ledger.exhausted + if result.outcome.isFound then 0 else 1
    completed := ledger.completed.set result.tier count
    turnaround :=
      ledger.turnaround.modify result.tier fun previous => runningMean previous rounds count }

/-- Count a drop. -/
def recordDrop (ledger : Ledger) (drop : DropRecord) : Ledger :=
  { ledger with drops := ledger.drops.increment drop.reason }

/-- Count several results. -/
def recordResults (ledger : Ledger) (results : List WorkResult) : Ledger :=
  results.foldl recordResult ledger

/-- Count several drops. -/
def recordDrops (ledger : Ledger) (drops : List DropRecord) : Ledger :=
  drops.foldl recordDrop ledger

end Ledger

/-- The figures of a round, taken at its end. -/
structure Telemetry where
  round : Round
  level : Nat
  activeCount : Nat
  queueDepths : PerTier Nat
  activeCap : Nat
  throttled : Bool
  lockdown : Bool
  policy : PolicyKind
  estimatedPower : Float
  estimatedTemp : Float

end PoolArbiter
