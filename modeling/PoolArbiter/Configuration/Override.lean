import PoolArbiter.Configuration.Document
import PoolArbiter.Environment.Basic
import PoolArbiter.Refusal

/-!
# Overrides from variables

Ten settings can be overridden by variables, each by its own. A text that cannot
be read as a value of its setting is ignored. Of the two variables that a profile
chooses between, only the chosen one counts, even if its text is ignored.
-/

namespace PoolArbiter

/-- A setting that a variable can override. -/
inductive Override where
  | workers
  | partitionMode
  | roundInterval
  | queueCapacity
  | adaptationWindow
  | powerBudget
  | thermalThreshold
  | thermalReclaim
  | slaBacklog
  | lockdownThreshold
  deriving DecidableEq, Repr

namespace Override

/-- All overrides. -/
def all : List Override :=
  [.workers, .partitionMode, .roundInterval, .queueCapacity, .adaptationWindow, .powerBudget,
    .thermalThreshold, .thermalReclaim, .slaBacklog, .lockdownThreshold]

/-- The name of the variable. -/
def variableName : Override → String
  | .workers => "HASHGRID_WORKERS"
  | .partitionMode => "HASHGRID_PARTITION_MODE"
  | .roundInterval => "HASHGRID_ROUND_INTERVAL_MS"
  | .queueCapacity => "HASHGRID_QUEUE_CAPACITY"
  | .adaptationWindow => "HASHGRID_ADAPTATION_WINDOW"
  | .powerBudget => "HASHGRID_POWER_BUDGET_W"
  | .thermalThreshold => "HASHGRID_THERMAL_THRESHOLD_C"
  | .thermalReclaim => "HASHGRID_THERMAL_RECLAIM"
  | .slaBacklog => "HASHGRID_SLA_BACKLOG"
  | .lockdownThreshold => "HASHGRID_LOCKDOWN_THRESHOLD"

/-- A 64-bit number. -/
def word? (text : String) : Option Nat :=
  Decimal.natural? Configuration.greatestWord text.toList

/-- A 32-bit number. -/
def halfWord? (text : String) : Option Nat :=
  Decimal.natural? Configuration.greatestHalfWord text.toList

/-- A float. -/
def float? (text : String) : Option Float :=
  Decimal.float? text.toList

/-- A truth value by its name. -/
def truth? (text : String) : Option Bool :=
  if text = "true" then some true else if text = "false" then some false else none

/-- A reclaim mode by its name, in letters of any size. -/
def reclaim? (text : String) : Option ThermalReclaim :=
  ThermalReclaim.ofName? text.toLower

/-- The configuration with the setting that a text describes, if it can be read. -/
def write? (config : Configuration) (text : String) : Override → Option Configuration
  | .workers => (word? text).map fun count =>
      { config with pool := { config.pool with workers := count } }
  | .partitionMode => (truth? text).map fun flag =>
      { config with pool := { config.pool with partitionMode := flag } }
  | .roundInterval => (word? text).map fun milliseconds =>
      { config with pool := { config.pool with roundIntervalMs := milliseconds } }
  | .queueCapacity => (word? text).map fun capacity =>
      { config with queues := { config.queues with capacity := capacity } }
  | .adaptationWindow => (word? text).map fun rounds =>
      { config with adaptation := { config.adaptation with windowRounds := rounds } }
  | .powerBudget => (float? text).map fun watts =>
      { config with thermal := { config.thermal with powerBudgetW := watts } }
  | .thermalThreshold => (float? text).map fun degrees =>
      { config with thermal := { config.thermal with safetyThresholdC := degrees } }
  | .thermalReclaim => (reclaim? text).map fun mode =>
      { config with thermal := { config.thermal with reclaim := mode } }
  | .slaBacklog => (word? text).map fun backlog =>
      { config with quality := { config.quality with slaBacklog := backlog } }
  | .lockdownThreshold => (halfWord? text).map fun violations =>
      { config with security := { config.security with lockdownThreshold := violations } }

/-- The configuration after one override; without a text, or with one that cannot
be read, it stays. -/
def apply (lookup : String → Option String) (config : Configuration) (setting : Override) :
    Configuration :=
  ((lookup setting.variableName).bind (setting.write? config)).getD config

end Override

namespace Configuration

/-- The configuration after all overrides. -/
def override (config : Configuration) (lookup : String → Option String) : Configuration :=
  Override.all.foldl (Override.apply lookup) config

/-- The configuration of a document under an environment, if it is accepted. -/
def ofDocument (document : String) (environment : Environment) :
    Except Refusal Configuration :=
  match parse? document with
  | none => .error .malformedDocument
  | some parsed =>
      let config := parsed.override (environment.profiled? environment.profile)
      match config.fault? with
      | some fault => .error (.invalidConfiguration fault)
      | none => .ok config

end Configuration

end PoolArbiter
