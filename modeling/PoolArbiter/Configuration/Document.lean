import PoolArbiter.Configuration.Basic
import PoolArbiter.Toml.Document
import PoolArbiter.Toml.Printing

/-!
# Configurations as documents

How a configuration is read from the table of a document and printed as one.
Every section and every field may be missing; then the default stands. Unknown
sections and fields are ignored. A section may also be written as an array, whose
elements are its fields in order.
-/

namespace PoolArbiter

open Toml (Value Entries Scalar)

namespace Configuration

/-- The greatest number of a 64-bit setting. -/
def greatestWord : Nat :=
  0xFFFFFFFFFFFFFFFF

/-- The greatest number of a 32-bit setting. -/
def greatestHalfWord : Nat :=
  0xFFFFFFFF

/-- A whole number from zero to a limit. -/
def naturalOf? (greatest : Nat) : Value → Option Nat
  | .integer number =>
      if 0 ≤ number ∧ number ≤ greatest then some number.toNat else none
  | _ => none

/-- A float, which may be written as a whole number. -/
def binary64Of? : Value → Option Binary64
  | .float number => some number
  | .integer number => some (.ofFloat (Float.ofInt number))
  | _ => none

/-- A float of which only the value counts. -/
def floatOf? (value : Value) : Option Float :=
  (binary64Of? value).map (·.toFloat)

/-- A truth value. -/
def truthOf? : Value → Option Bool
  | .truth flag => some flag
  | _ => none

/-- Whether a value holds nothing. -/
def isEmptyHolder : Value → Bool
  | .array elements => elements.isEmpty
  | .table _ entries => entries.isEmpty
  | .tables elements => elements.isEmpty
  | _ => false

/-- A mode by its name. It may also be written as a table whose only key is the name
and holds something empty. -/
def reclaimOf? : Value → Option ThermalReclaim
  | .text name => ThermalReclaim.ofName? name
  | .table _ [(name, holder)] =>
      if isEmptyHolder holder then ThermalReclaim.ofName? name else none
  | _ => none

/-- Capacities by tier name. -/
def capacitiesOf? : Value → Option (KeyMap String Nat)
  | .table _ entries =>
      (entries.mapM fun (entry : String × Value) =>
        (naturalOf? greatestWord entry.2).map (entry.1, ·)).map KeyMap.ofList
  | _ => none

/-- The fields of a section, by name or by position. -/
inductive Fields where
  | named (entries : Entries)
  | positional (elements : List Value)

namespace Fields

/-- The fields of a section that is missing or written as a value. A date has no
field of any section. -/
def of? : Option Value → Option Fields
  | none => some (.named [])
  | some (.table _ entries) => some (.named entries)
  | some (.array elements) => some (.positional elements)
  | some (.tables elements) => some (.positional (elements.map (.table .header)))
  | some .moment => some (.named [])
  | some _ => none

/-- The value of a field. -/
def value? (fields : Fields) (position : Nat) (name : String) : Option Value :=
  match fields with
  | .named entries => entries.lookup name
  | .positional elements => elements[position]?

/-- A field, or its default if it is missing. -/
def get? {α : Type} (fields : Fields) (position : Nat) (name : String)
    (read : Value → Option α) (default : α) : Option α :=
  match fields.value? position name with
  | none => some default
  | some value => read value

end Fields

/-- The pool section. -/
def poolOf? (fields : Fields) : Option PoolSettings := do
  let default : PoolSettings := {}
  return {
    workers := ← fields.get? 0 "workers" (naturalOf? greatestWord) default.workers
    partitionMode := ← fields.get? 1 "partition_mode" truthOf? default.partitionMode
    searchSpace := ← fields.get? 2 "search_space" (naturalOf? greatestWord) default.searchSpace
    faultTimeoutFactor :=
      ← fields.get? 3 "fault_timeout_factor" floatOf? default.faultTimeoutFactor
    faultMinRounds :=
      ← fields.get? 4 "fault_min_rounds" (naturalOf? greatestWord) default.faultMinRounds
    maxPayloadBytes :=
      ← fields.get? 5 "max_payload_bytes" (naturalOf? greatestWord) default.maxPayloadBytes
    roundIntervalMs :=
      ← fields.get? 6 "round_interval_ms" (naturalOf? greatestWord) default.roundIntervalMs }

/-- The section of the queues. -/
def queuesOf? (fields : Fields) : Option QueueSettings := do
  let default : QueueSettings := {}
  return {
    capacity := ← fields.get? 0 "capacity" (naturalOf? greatestWord) default.capacity
    tierCapacity := ← fields.get? 1 "tier_capacity" capacitiesOf? default.tierCapacity
    reclaimHeadroom :=
      ← fields.get? 2 "reclaim_headroom" (naturalOf? greatestWord) default.reclaimHeadroom }

/-- The section of adaptation. -/
def adaptationOf? (fields : Fields) : Option AdaptationSettings := do
  let default : AdaptationSettings := {}
  return {
    windowRounds := ← fields.get? 0 "window_rounds" (naturalOf? greatestWord) default.windowRounds
    highUtilizationPct :=
      ← fields.get? 1 "high_utilization_pct" floatOf? default.highUtilizationPct
    lowUtilizationPct := ← fields.get? 2 "low_utilization_pct" floatOf? default.lowUtilizationPct
    loadWeight := ← fields.get? 3 "load_weight" (naturalOf? greatestHalfWord) default.loadWeight
    latencyWeight :=
      ← fields.get? 4 "latency_weight" (naturalOf? greatestHalfWord) default.latencyWeight
    historyCapacity :=
      ← fields.get? 5 "history_capacity" (naturalOf? greatestWord) default.historyCapacity
    powerSaveMode := ← fields.get? 6 "power_save_mode" truthOf? default.powerSaveMode
    performanceBoost := ← fields.get? 7 "performance_boost" truthOf? default.performanceBoost }

/-- The section of power and heat. -/
def thermalOf? (fields : Fields) : Option ThermalSettings := do
  let default : ThermalSettings := {}
  return {
    powerBudgetW := ← fields.get? 0 "power_budget_w" floatOf? default.powerBudgetW
    perWorkerPowerW := ← fields.get? 1 "per_worker_power_w" floatOf? default.perWorkerPowerW
    idlePowerW := ← fields.get? 2 "idle_power_w" floatOf? default.idlePowerW
    ambientC := ← fields.get? 3 "ambient_c" floatOf? default.ambientC
    tempPerWorkerC := ← fields.get? 4 "temp_per_worker_c" floatOf? default.tempPerWorkerC
    safetyThresholdC := ← fields.get? 5 "safety_threshold_c" floatOf? default.safetyThresholdC
    hysteresisC := ← fields.get? 6 "hysteresis_c" floatOf? default.hysteresisC
    reclaim := ← fields.get? 7 "reclaim" reclaimOf? default.reclaim }

/-- The section of service quality. -/
def qualityOf? (fields : Fields) : Option QualitySettings := do
  let default : QualitySettings := {}
  return {
    slaBacklog := ← fields.get? 0 "sla_backlog" (naturalOf? greatestWord) default.slaBacklog
    slaWindowRounds :=
      ← fields.get? 1 "sla_window_rounds" (naturalOf? greatestHalfWord) default.slaWindowRounds
    emergencyMode := ← fields.get? 2 "emergency_mode" truthOf? default.emergencyMode }

/-- The security section. -/
def securityOf? (fields : Fields) : Option SecuritySettings := do
  let default : SecuritySettings := {}
  return {
    deviationThreshold :=
      ← fields.get? 0 "deviation_threshold" floatOf? default.deviationThreshold
    lockdownThreshold :=
      ← fields.get? 1 "lockdown_threshold" (naturalOf? greatestHalfWord)
        default.lockdownThreshold }

/-- The section of result collection. -/
def collectorOf? (fields : Fields) : Option CollectorSettings := do
  let default : CollectorSettings := {}
  return { emaAlpha := ← fields.get? 0 "ema_alpha" binary64Of? default.emaAlpha }

/-- The configuration that the table of a document describes. -/
def ofEntries? (entries : Entries) : Option Configuration := do
  let fields (name : String) := Fields.of? (entries.lookup name)
  return {
    pool := ← poolOf? (← fields "pool")
    queues := ← queuesOf? (← fields "queues")
    adaptation := ← adaptationOf? (← fields "adaptation")
    thermal := ← thermalOf? (← fields "thermal")
    quality := ← qualityOf? (← fields "qos")
    security := ← securityOf? (← fields "security")
    collector := ← collectorOf? (← fields "collector") }

/-- The configuration that a document describes. -/
def parse? (document : String) : Option Configuration :=
  (Toml.readDocument? document).bind ofEntries?

/-- The sections of the document of a configuration. -/
def sections (config : Configuration) : List Toml.Section :=
  [ { path := ["pool"]
      fields :=
        [ ("workers", .natural config.pool.workers),
          ("partition_mode", .truth config.pool.partitionMode),
          ("search_space", .natural config.pool.searchSpace),
          ("fault_timeout_factor", .float config.pool.faultTimeoutFactor),
          ("fault_min_rounds", .natural config.pool.faultMinRounds),
          ("max_payload_bytes", .natural config.pool.maxPayloadBytes),
          ("round_interval_ms", .natural config.pool.roundIntervalMs) ] },
    { path := ["queues"]
      fields :=
        [ ("capacity", .natural config.queues.capacity),
          ("reclaim_headroom", .natural config.queues.reclaimHeadroom) ] },
    { path := ["queues", "tier_capacity"]
      fields :=
        config.queues.tierCapacity.entries.map fun (name, capacity) =>
          (name, .natural capacity) },
    { path := ["adaptation"]
      fields :=
        [ ("window_rounds", .natural config.adaptation.windowRounds),
          ("high_utilization_pct", .float config.adaptation.highUtilizationPct),
          ("low_utilization_pct", .float config.adaptation.lowUtilizationPct),
          ("load_weight", .natural config.adaptation.loadWeight),
          ("latency_weight", .natural config.adaptation.latencyWeight),
          ("history_capacity", .natural config.adaptation.historyCapacity),
          ("power_save_mode", .truth config.adaptation.powerSaveMode),
          ("performance_boost", .truth config.adaptation.performanceBoost) ] },
    { path := ["thermal"]
      fields :=
        [ ("power_budget_w", .float config.thermal.powerBudgetW),
          ("per_worker_power_w", .float config.thermal.perWorkerPowerW),
          ("idle_power_w", .float config.thermal.idlePowerW),
          ("ambient_c", .float config.thermal.ambientC),
          ("temp_per_worker_c", .float config.thermal.tempPerWorkerC),
          ("safety_threshold_c", .float config.thermal.safetyThresholdC),
          ("hysteresis_c", .float config.thermal.hysteresisC),
          ("reclaim", .text config.thermal.reclaim.name) ] },
    { path := ["qos"]
      fields :=
        [ ("sla_backlog", .natural config.quality.slaBacklog),
          ("sla_window_rounds", .natural config.quality.slaWindowRounds),
          ("emergency_mode", .truth config.quality.emergencyMode) ] },
    { path := ["security"]
      fields :=
        [ ("deviation_threshold", .float config.security.deviationThreshold),
          ("lockdown_threshold", .natural config.security.lockdownThreshold) ] },
    { path := ["collector"]
      fields := [("ema_alpha", .float config.collector.emaAlpha.toFloat)] } ]

/-- The text for a configuration that cannot be printed. -/
def unprintableMessage : String :=
  "failed to serialize config"

/-- The document of a configuration, if it can be printed. -/
def render? (config : Configuration) : Option String :=
  (Toml.print? config.sections).map String.ofList

end Configuration

end PoolArbiter
