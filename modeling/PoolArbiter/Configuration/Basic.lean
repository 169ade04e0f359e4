import PoolArbiter.Binary64
import PoolArbiter.Data.KeyMap
import PoolArbiter.Tier

/-!
# Configuration

The settings of an arbiter, section by section, with their defaults. A
configuration need not be sensible: `Configuration.fault?` in
`PoolArbiter.Configuration.Validity` says which ones are accepted.
-/

namespace PoolArbiter

/-- Shape of the worker pool and detection of faulty workers. -/
structure PoolSettings where
  /-- Number of worker slots. -/
  workers : Nat := 300
  /-- Give every worker its own slice of the search space. -/
  partitionMode : Bool := true
  /-- Number of candidates in the search space. -/
  searchSpace : Nat := 0x100000000
  /-- A worker is faulty after this many times its mean completion time. -/
  faultTimeoutFactor : Float := 4
  /-- No worker is faulty before it has had this many rounds. -/
  faultMinRounds : Nat := 8
  /-- Size of the largest accepted payload. -/
  maxPayloadBytes : Nat := 256
  /-- Time between rounds when a clock drives the controller. -/
  roundIntervalMs : Nat := 100

/-- Bounds of the admission queues. -/
structure QueueSettings where
  /-- Capacity of a tier that has no entry of its own. -/
  capacity : Nat := 256
  /-- Capacities of single tiers, by tier name. -/
  tierCapacity : KeyMap String Nat := .empty
  /-- Room above the capacity for items taken back from workers. -/
  reclaimHeadroom : Nat := 64

/-- Thresholds and weights of policy adaptation. -/
structure AdaptationSettings where
  /-- Rounds between two looks at the policy. -/
  windowRounds : Nat := 16
  /-- A mean load above this calls for load balancing. -/
  highUtilizationPct : Float := 85
  /-- A mean load below this calls for strict priority. -/
  lowUtilizationPct : Float := 15
  /-- Weight of the load in the score of a worker. -/
  loadWeight : Nat := 256
  /-- Weight of the completion time in the score of a worker. -/
  latencyWeight : Nat := 1
  /-- Number of window means that are kept. -/
  historyCapacity : Nat := 64
  /-- Whether power saving is on at the start. -/
  powerSaveMode : Bool := false
  /-- Whether the performance boost is on at the start. -/
  performanceBoost : Bool := false

/-- What becomes of the item of a worker that is idled to save power or heat. -/
inductive ThermalReclaim where
  /-- The item ends as exhausted. -/
  | drop
  /-- The item goes back to the head of its tier. -/
  | requeue
  deriving DecidableEq, Repr

namespace ThermalReclaim

/-- The name under which a mode is read and written. -/
def name : ThermalReclaim → String
  | .drop => "drop"
  | .requeue => "requeue"

/-- The mode of exactly this name. -/
def ofName? (text : String) : Option ThermalReclaim :=
  if text = "drop" then some .drop
  else if text = "requeue" then some .requeue
  else none

end ThermalReclaim

/-- Power budget and thermal model. -/
structure ThermalSettings where
  powerBudgetW : Float := 240
  perWorkerPowerW : Float := 0.8
  idlePowerW : Float := 0
  ambientC : Float := 25
  tempPerWorkerC : Float := 0.2
  safetyThresholdC : Float := 85
  hysteresisC : Float := 5
  reclaim : ThermalReclaim := .drop

/-- Service-level thresholds. -/
structure QualitySettings where
  /-- A round with more queued items than this counts as over the limit. -/
  slaBacklog : Nat := 512
  /-- This many rounds over the limit in a row make one violation. -/
  slaWindowRounds : Nat := 4
  /-- Whether the emergency mode is on at the start. -/
  emergencyMode : Bool := false

/-- Thresholds of the security gate. -/
structure SecuritySettings where
  /-- A deviation score above this counts as a violation. -/
  deviationThreshold : Float := 10
  /-- Number of violations that raise the lockdown. -/
  lockdownThreshold : Nat := 16

/-- Settings of result collection. -/
structure CollectorSettings where
  /-- Weight of the newest completion time in a worker's mean. -/
  emaAlpha : Binary64 := .ofFloat 0.25

/-- All settings of an arbiter. -/
structure Configuration where
  pool : PoolSettings := {}
  queues : QueueSettings := {}
  adaptation : AdaptationSettings := {}
  thermal : ThermalSettings := {}
  quality : QualitySettings := {}
  security : SecuritySettings := {}
  collector : CollectorSettings := {}

namespace QueueSettings

/-- The capacity of a tier: its own entry if there is one under its name, the
common capacity otherwise. -/
def capacityFor (settings : QueueSettings) (tier : Tier) : Nat :=
  (settings.tierCapacity.find? tier.name).getD settings.capacity

/-- The capacities of all tiers. -/
def capacities (settings : QueueSettings) : PerTier Nat :=
  .tabulate settings.capacityFor

/-- The sum of the capacities. -/
def totalCapacity (settings : QueueSettings) : Nat :=
  settings.capacities.total

end QueueSettings

end PoolArbiter
