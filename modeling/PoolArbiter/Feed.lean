import PoolArbiter.Configuration.Basic
import PoolArbiter.Data.KeyMap
import PoolArbiter.Outcome

/-!
# Reports from outside

Workers, monitors and sensors report at any time; the reports wait in an inbox
until a round takes them all at once. `Snapshot.ofReports` is what a round sees:
completions and health reports in the order of arrival, the last sensor reading,
and the last verdict on each item.
-/

namespace PoolArbiter

/-- A worker says that it is done with an item. -/
structure Completion where
  worker : WorkerId
  work : WorkId
  outcome : Outcome
  load : Binary64

/-- A monitor's view of a worker. -/
structure HealthReport where
  worker : WorkerId
  tampered : Bool
  deviation : Float

/-- Measured power and temperature. -/
structure SensorReading where
  power : Float
  temperature : Float

/-- Anything that can be reported. -/
inductive Report where
  | completion (completion : Completion)
  | health (report : HealthReport)
  | sensor (reading : SensorReading)
  | verdict (work : WorkId) (valid : Bool)

/-- Everything that arrived since the last round. -/
structure Snapshot where
  completions : List Completion
  health : List HealthReport
  sensor : Option SensorReading
  verdicts : KeyMap WorkId Bool

namespace Snapshot

/-- Whether nothing arrived. -/
def isEmpty (snapshot : Snapshot) : Bool :=
  snapshot.completions.isEmpty && snapshot.health.isEmpty && snapshot.sensor.isNone &&
    snapshot.verdicts.isEmpty

/-- What a round sees of the reports that wait, oldest first. -/
def ofReports (reports : List Report) : Snapshot where
  completions := reports.filterMap fun
    | .completion completion => some completion
    | _ => none
  health := reports.filterMap fun
    | .health report => some report
    | _ => none
  sensor := (reports.filterMap fun
    | .sensor reading => some reading
    | _ => none).getLast?
  verdicts := .ofList (reports.filterMap fun
    | .verdict work valid => some (work, valid)
    | _ => none)

end Snapshot

/-- The way from reporters to a receiver. -/
inductive Feed where
  /-- The receiver is there, and these reports wait for it, oldest first. -/
  | connected (waiting : List Report)
  /-- The receiver is gone. -/
  | closed

namespace Feed

/-- Send a report; it is lost once the receiver is gone. -/
def send (feed : Feed) (report : Report) : Feed :=
  match feed with
  | .connected waiting => .connected (waiting ++ [report])
  | .closed => .closed

/-- Whether a report that is sent now arrives. -/
def isConnected : Feed → Bool
  | .connected _ => true
  | .closed => false

/-- Take all reports that wait. -/
def take? (feed : Feed) : Option (Snapshot × Feed) :=
  match feed with
  | .connected waiting => some (.ofReports waiting, .connected [])
  | .closed => none

end Feed

/-- The switches of the operator. -/
structure Modes where
  powerSave : Bool
  performanceBoost : Bool
  emergency : Bool
  deriving DecidableEq, Repr

/-- The switches as they are configured. -/
def Modes.ofConfiguration (config : Configuration) : Modes where
  powerSave := config.adaptation.powerSaveMode
  performanceBoost := config.adaptation.performanceBoost
  emergency := config.quality.emergencyMode

end PoolArbiter
