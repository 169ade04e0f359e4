import PoolArbiter.Controller.Operation

/-!
# The loop under a clock

A clock wakes the loop for each round until it is told to stop. The loop ends at
once after a round that leaves the lockdown active. Its course depends only on
the order of the wake-ups, so it is a function of their list.
-/

namespace PoolArbiter

/-- What can wake the loop. -/
inductive WakeUp where
  | tick
  | shutdown
  deriving DecidableEq, Repr

namespace Controller

/-- Run a round and send its report to the subscriber. -/
def tick (controller : Controller) : Controller :=
  let (next, report) := controller.runRound
  { next with subscription := next.subscription.deliver report }

/-- How a loop ended. -/
inductive LoopEnd where
  /-- It was told to stop after a number of rounds. -/
  | stopped (rounds : Nat)
  /-- A round ended with the lockdown active. -/
  | locked
  /-- No wake-up is left, and the loop still waits. -/
  | waiting
  deriving DecidableEq, Repr

/-- Follow the wake-ups of a loop that started at a round. -/
def runFrom (start : Round) : List WakeUp → Controller → Controller × LoopEnd
  | [], controller => (controller, .waiting)
  | .shutdown :: _, controller => (controller, .stopped (controller.round - start))
  | .tick :: rest, controller =>
      let next := controller.tick
      if next.gate.lockdown then (next, .locked) else runFrom start rest next

/-- Follow the wake-ups of a loop. -/
def run (controller : Controller) (wakeUps : List WakeUp) : Controller × LoopEnd :=
  runFrom controller.round wakeUps controller

/-- The time between two ticks, at least one millisecond. -/
def interval (controller : Controller) : Nat :=
  max 1 controller.config.pool.roundIntervalMs

/-- The wake-ups of a loop that is stopped after a number of milliseconds: a tick
at the start and after every interval before the stop. -/
def wakeUpsUntil (controller : Controller) (milliseconds : Nat) : List WakeUp :=
  let ticks := (milliseconds + controller.interval - 1) / controller.interval
  List.replicate ticks .tick ++ [.shutdown]

end Controller

end PoolArbiter
