import PoolArbiter.Controller.Basic
import PoolArbiter.Output.Json

/-!
# Lines of output

What a run writes: the figures of each round, results and drops as they occur, and
the ledger at the end. Each is one line with an object whose field `type` tells
what it is. The time is added when a line is written.
-/

namespace PoolArbiter

open OutputValue (ofFields)

/-- The counts that are not zero, by name. -/
def DropCounts.output (counts : DropCounts) : OutputValue :=
  ofFields ((DropReason.all.filter fun reason => counts.get reason ≠ 0).map fun reason =>
    (reason.name, .natural (counts.get reason)))

/-- The tiers that have results. -/
def Ledger.completedTiers (ledger : Ledger) : List Tier :=
  Tier.all.filter fun tier => ledger.completed.get tier ≠ 0

/-- The fields of the ledger. Only reasons and tiers that were counted appear. -/
def Ledger.fields (ledger : Ledger) : List (String × OutputValue) :=
  [ ("rounds", .natural ledger.rounds),
    ("assigned_total", .natural ledger.assigned),
    ("found_total", .natural ledger.found),
    ("exhausted_total", .natural ledger.exhausted),
    ("drops", ledger.drops.output),
    ("worker_faults", .natural ledger.workerFaults),
    ("thermal_preemptions", .natural ledger.thermalPreemptions),
    ("security_reclaims", .natural ledger.securityReclaims),
    ("policy_switches", .natural ledger.policySwitches),
    ("current_policy", .text ledger.currentPolicy.name),
    ("worker_utilization", .float ledger.workerUtilization),
    ("completed_per_tier",
      ofFields (ledger.completedTiers.map fun tier =>
        (tier.name, .natural (ledger.completed.get tier)))),
    ("avg_turnaround_rounds",
      ofFields (ledger.completedTiers.map fun tier =>
        (tier.name, .float (ledger.turnaround.get tier)))),
    ("utilization_history", .list (ledger.utilizationHistory.map .float)) ]

/-- The fields of the figures of a round. -/
def Telemetry.fields (figures : Telemetry) : List (String × OutputValue) :=
  [ ("round", .natural figures.round),
    ("level", .natural figures.level),
    ("active_count", .natural figures.activeCount),
    ("queue_depth_per_tier", .list (figures.queueDepths.toList.map .natural)),
    ("active_cap", .natural figures.activeCap),
    ("throttled", .truth figures.throttled),
    ("lockdown", .truth figures.lockdown),
    ("policy", .text figures.policy.name),
    ("estimated_power", .float figures.estimatedPower),
    ("estimated_temp", .float figures.estimatedTemp) ]

/-- An outcome with its answer, if it has one. -/
def Outcome.output : Outcome → OutputValue
  | .found answer =>
      ofFields
        [ ("kind", .text "found"),
          ("payload", .list (answer.map fun byte => .natural byte.toNat)) ]
  | .exhausted => ofFields [("kind", .text "exhausted")]

/-- The fields of a result. -/
def WorkResult.fields (result : WorkResult) : List (String × OutputValue) :=
  [ ("work_id", .natural result.work),
    ("worker_id", .natural result.worker),
    ("tier", .text result.tier.name),
    ("outcome", result.outcome.output),
    ("submitted_round", .natural result.submittedRound),
    ("completion_round", .natural result.completionRound) ]

/-- The fields of a drop. -/
def DropRecord.fields (drop : DropRecord) : List (String × OutputValue) :=
  [ ("work_id", .natural drop.work),
    ("tier", .text drop.tier.name),
    ("reason", .text drop.reason.name),
    ("round", .natural drop.round) ]

/-- Something that a run writes. -/
inductive OutputLine where
  | round (figures : Telemetry)
  | result (finished : WorkResult)
  | drop (ended : DropRecord)
  | ledger (counts : Ledger)

namespace OutputLine

/-- The fields of a line apart from its time. -/
def fields : OutputLine → List (String × OutputValue)
  | .round figures => ("type", .text "round") :: figures.fields
  | .result finished => ("type", .text "result") :: finished.fields
  | .drop ended => ("type", .text "drop") :: ended.fields
  | .ledger counts => ("type", .text "metrics") :: counts.fields

/-- The time of a line, as it is when the line is written. The ledger has none
before the first round. -/
def timeField (now : String) : OutputLine → List (String × OutputValue)
  | .round _ => [("taken_at", .text now)]
  | .result _ => [("published_at", .text now)]
  | .drop _ => []
  | .ledger counts =>
      [("last_round_at", if counts.rounds = 0 then .absent else .text now)]

/-- The text of a line. -/
def render (now : String) (line : OutputLine) : String :=
  String.ofList (ofFields (line.fields ++ line.timeField now)).render

end OutputLine

/-- The lines of a round: its figures, unless they are not wanted, and then its
results and drops. -/
def RoundReport.lines (report : RoundReport) (quiet : Bool) : List OutputLine :=
  (if quiet then [] else [.round report.telemetry]) ++
    report.log.results.map .result ++ report.log.drops.map .drop

end PoolArbiter
