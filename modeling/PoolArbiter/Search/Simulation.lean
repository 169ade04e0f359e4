import PoolArbiter.Controller.Basic
import PoolArbiter.Search.Nonce

/-!
# Simulated workers

A simulated worker scans the range of its assignment and reports how much of its
budget it used as its load. What it reports depends on its assignment alone, not
on the other workers.
-/

namespace PoolArbiter

/-- How simulated workers search. -/
structure Simulation where
  /-- Number of leading zero bits that make a hit. -/
  difficulty : Nat
  /-- Number of nonces that are scanned at most; zero counts as one. -/
  scanBudget : Nat
  deriving DecidableEq, Repr

namespace Simulation

/-- The budget that is used. -/
def budget (simulation : Simulation) : Nat :=
  max 1 simulation.scanBudget

/-- What a simulated worker reports about its assignment. -/
def complete (simulation : Simulation) (assignment : Assignment) : Completion :=
  let (outcome, scanned) :=
    Nonce.search assignment.payload assignment.range simulation.difficulty simulation.budget
  { worker := assignment.worker
    work := assignment.work
    outcome := outcome
    load := .ofFloat (Float.ofNat scanned / Float.ofNat simulation.budget * 100) }

/-- Whether a completion stands before another one: by worker, then by item. -/
def reportedBefore (first second : Completion) : Bool :=
  first.worker < second.worker ||
    (first.worker == second.worker && first.work ≤ second.work)

/-- The reports on several assignments, in order of worker and item. -/
def completeAll (simulation : Simulation) (assignments : List Assignment) :
    List Completion :=
  (assignments.map simulation.complete).mergeSort reportedBefore

end Simulation

end PoolArbiter
