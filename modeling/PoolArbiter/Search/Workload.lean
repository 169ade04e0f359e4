import PoolArbiter.Controller.Operation
import PoolArbiter.Search.Sha256

/-!
# A synthetic workload

An endless stream of submissions: the tiers take turns in a fixed mix, and the
payload of each submission is the digest of its number.
-/

namespace PoolArbiter

namespace Workload

/-- The tiers in turn: mostly of middle priority, some urgent, a little
background. -/
def tiers : List Tier :=
  [.critical, .high, .high, .medium, .medium, .medium, .low, .background]

/-- The tier of a submission. -/
def tier (number : Nat) : Tier :=
  tiers.getD (number % tiers.length) .critical

/-- The payload of a submission. -/
def payload (number : Nat) : Payload :=
  ⟨Sha256.digest (Sha256.littleEndian 8 number)⟩

end Workload

/-- How far the workload has come. -/
structure Producer where
  /-- Number of the last submission. -/
  submitted : Nat := 0
  /-- Whether the lockdown has stopped the workload for good. -/
  stopped : Bool := false
  deriving DecidableEq, Repr

namespace Producer

/-- Submit up to a number of items. A full queue ends the attempts of this round,
the lockdown those of all rounds. -/
def submitUpTo : Nat → Producer → Controller → Producer × Controller
  | 0, producer, controller => (producer, controller)
  | count + 1, producer, controller =>
      if producer.stopped then
        (producer, controller)
      else
        let number := producer.submitted + 1
        let (next, answer) := controller.submit (Workload.payload number) (Workload.tier number)
        match answer with
        | .error (.queueFull _) => ({ producer with submitted := number }, next)
        | .error .lockdown => ({ submitted := number, stopped := true }, next)
        | _ => submitUpTo count { producer with submitted := number } next

end Producer

end PoolArbiter
