import PoolArbiter.CommandLine.Arguments
import PoolArbiter.Controller.Loop
import PoolArbiter.Output.Line
import PoolArbiter.Search.Simulation
import PoolArbiter.Search.Workload

/-!
# Runs

A run drives a controller round by round: it submits items, lets the controller
decide, writes what the round reports, and lets simulated workers complete the
assignments before the next round. At the end the items at work are drained and
the ledger is written.
-/

namespace PoolArbiter

/-- A run between two rounds. -/
structure Run where
  controller : Controller
  simulation : Simulation
  producer : Producer
  submitRate : Nat
  quiet : Bool

namespace Run

/-- A run before its first round. -/
def start (controller : Controller) (arguments : Arguments) : Run where
  controller := controller
  simulation := { difficulty := arguments.difficulty, scanBudget := arguments.scanBudget }
  producer := {}
  submitRate := arguments.submitRate
  quiet := arguments.quiet

/-- One round: the run after it, and its lines. -/
def step (run : Run) : Run × List OutputLine :=
  let (producer, fed) := run.producer.submitUpTo run.submitRate run.controller
  let (decided, report) := fed.runRound
  let completed := (run.simulation.completeAll report.log.assignments).foldl
    (fun controller completion => controller.receive (.completion completion)) decided
  ({ run with controller := completed, producer := producer }, report.lines run.quiet)

/-- Whether the lockdown has ended the run. -/
def isLocked (run : Run) : Bool :=
  run.controller.gate.lockdown

/-- The last lines: a drop for each item at work, and the ledger. -/
def close (run : Run) : List OutputLine :=
  let (drained, drops) := run.controller.drain
  drops.map .drop ++ [.ledger drained.ledger]

/-- The lines of a run of a number of rounds, and whether the lockdown ended it. -/
def lines : Nat → Run → List OutputLine × Bool
  | 0, run => (run.close, false)
  | count + 1, run =>
      let (next, written) := run.step
      if next.isLocked then
        (written ++ next.close, true)
      else
        let (rest, locked) := lines count next
        (written ++ rest, locked)

/-- Number of rounds of a run with a limit; there is always a first round. -/
def roundCount (limit : Nat) : Nat :=
  max 1 limit

end Run

end PoolArbiter
