import PoolArbiter.Configuration.Basic
import PoolArbiter.Decimal.Notation

/-!
# Accepted configurations

The constraints on a configuration, in the order in which they are tested. The
first one that fails is reported. A comparison with a value that is not a number
is false, so such a value passes every test but that of the smoothing weight.
-/

namespace PoolArbiter

/-- A constraint that a configuration breaks. -/
inductive ConfigurationFault where
  | noWorkers
  | searchSpaceTooSmall (searchSpace workers : Nat)
  | faultFactorNotPositive
  | unknownCapacityTier (name : String)
  | zeroTierCapacity (name : String)
  | zeroCapacity
  | zeroWindow
  | crossedUtilization (low high : Float)
  | workerPowerNotPositive
  | negativeTemperature
  | smoothingOutOfRange
  | zeroLockdownThreshold

namespace ConfigurationFault

/-- The text of a broken constraint. -/
def message : ConfigurationFault → String
  | .noWorkers => "pool.workers must be at least 1"
  | .searchSpaceTooSmall searchSpace workers =>
      "pool.search_space (" ++ toString searchSpace ++ ") is smaller than pool.workers (" ++
        toString workers ++ ")"
  | .faultFactorNotPositive => "pool.fault_timeout_factor must be positive"
  | .unknownCapacityTier name => "queues.tier_capacity has unknown tier '" ++ name ++ "'"
  | .zeroTierCapacity name => "queues.tier_capacity." ++ name ++ " must be at least 1"
  | .zeroCapacity => "queues.capacity must be at least 1"
  | .zeroWindow => "adaptation.window_rounds must be at least 1"
  | .crossedUtilization low high =>
      "adaptation.low_utilization_pct (" ++ String.ofList (Decimal.plain low) ++
        ") must be below high_utilization_pct (" ++ String.ofList (Decimal.plain high) ++ ")"
  | .workerPowerNotPositive => "thermal.per_worker_power_w must be positive"
  | .negativeTemperature => "thermal temperatures must not be negative"
  | .smoothingOutOfRange => "collector.ema_alpha must be in (0, 1]"
  | .zeroLockdownThreshold => "security.lockdown_threshold must be at least 1"

end ConfigurationFault

/-- The fault of one capacity entry: its name is no tier, or its capacity is zero. -/
def QueueSettings.entryFault? (entry : String × Nat) : Option ConfigurationFault :=
  if (Tier.ofText? entry.1).isNone then
    some (.unknownCapacityTier entry.1)
  else if entry.2 = 0 then
    some (.zeroTierCapacity entry.1)
  else
    none

namespace Configuration

/-- The faults of a configuration, in the order of the tests; a test that passes
stands as `none`. -/
def tests (config : Configuration) : List (Option ConfigurationFault) :=
  [ if config.pool.workers = 0 then some .noWorkers else none,
    if config.pool.partitionMode ∧ config.pool.searchSpace < config.pool.workers then
      some (.searchSpaceTooSmall config.pool.searchSpace config.pool.workers)
    else none,
    if config.pool.faultTimeoutFactor ≤ 0 then some .faultFactorNotPositive else none,
    config.queues.tierCapacity.entries.findSome? QueueSettings.entryFault?,
    if config.queues.capacity = 0 then some .zeroCapacity else none,
    if config.adaptation.windowRounds = 0 then some .zeroWindow else none,
    if config.adaptation.highUtilizationPct ≤ config.adaptation.lowUtilizationPct then
      some (.crossedUtilization config.adaptation.lowUtilizationPct
        config.adaptation.highUtilizationPct)
    else none,
    if config.thermal.perWorkerPowerW ≤ 0 then some .workerPowerNotPositive else none,
    if config.thermal.tempPerWorkerC < 0 ∨ config.thermal.hysteresisC < 0 then
      some .negativeTemperature
    else none,
    if 0 < config.collector.emaAlpha.toFloat ∧ config.collector.emaAlpha.toFloat ≤ 1 then none
    else some .smoothingOutOfRange,
    if config.security.lockdownThreshold = 0 then some .zeroLockdownThreshold else none ]

/-- The first constraint that a configuration breaks. -/
def fault? (config : Configuration) : Option ConfigurationFault :=
  config.tests.findSome? id

/-- Whether a configuration breaks no constraint. -/
def IsAccepted (config : Configuration) : Prop :=
  config.fault? = none

end Configuration

end PoolArbiter
