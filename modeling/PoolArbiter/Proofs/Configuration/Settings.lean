import PoolArbiter.Configuration.Document

/-!
# The settings of a configuration

A configuration has thirty-two settings. `Configuration.get` reads any of them, and
`Setting.entry` says where a document holds it. A document that is read as a configuration has
a value for each setting that it holds, and the default stands for the others
(`get_eq_stored`).
-/

namespace PoolArbiter

namespace Configuration

/-- A setting of a configuration. -/
inductive Setting where
  | workers
  | partitionMode
  | searchSpace
  | faultTimeoutFactor
  | faultMinRounds
  | maxPayloadBytes
  | roundIntervalMs
  | capacity
  | tierCapacity
  | reclaimHeadroom
  | windowRounds
  | highUtilizationPct
  | lowUtilizationPct
  | loadWeight
  | latencyWeight
  | historyCapacity
  | powerSaveMode
  | performanceBoost
  | powerBudgetW
  | perWorkerPowerW
  | idlePowerW
  | ambientC
  | tempPerWorkerC
  | safetyThresholdC
  | hysteresisC
  | reclaim
  | slaBacklog
  | slaWindowRounds
  | emergencyMode
  | deviationThreshold
  | lockdownThreshold
  | emaAlpha
  deriving DecidableEq, Repr

/-- What a setting is set to. -/
def Setting.Value : Setting → Type
  | .partitionMode | .powerSaveMode | .performanceBoost | .emergencyMode => Bool
  | .faultTimeoutFactor | .highUtilizationPct | .lowUtilizationPct | .powerBudgetW
  | .perWorkerPowerW | .idlePowerW | .ambientC | .tempPerWorkerC | .safetyThresholdC
  | .hysteresisC | .deviationThreshold => Float
  | .tierCapacity => KeyMap String Nat
  | .reclaim => ThermalReclaim
  | .emaAlpha => Binary64
  | .workers | .searchSpace | .faultMinRounds | .maxPayloadBytes | .roundIntervalMs | .capacity
  | .reclaimHeadroom | .windowRounds | .loadWeight | .latencyWeight | .historyCapacity
  | .slaBacklog | .slaWindowRounds | .lockdownThreshold => Nat

/-- The value of a setting. -/
def get (config : Configuration) : (setting : Setting) → setting.Value
  | .workers => config.pool.workers
  | .partitionMode => config.pool.partitionMode
  | .searchSpace => config.pool.searchSpace
  | .faultTimeoutFactor => config.pool.faultTimeoutFactor
  | .faultMinRounds => config.pool.faultMinRounds
  | .maxPayloadBytes => config.pool.maxPayloadBytes
  | .roundIntervalMs => config.pool.roundIntervalMs
  | .capacity => config.queues.capacity
  | .tierCapacity => config.queues.tierCapacity
  | .reclaimHeadroom => config.queues.reclaimHeadroom
  | .windowRounds => config.adaptation.windowRounds
  | .highUtilizationPct => config.adaptation.highUtilizationPct
  | .lowUtilizationPct => config.adaptation.lowUtilizationPct
  | .loadWeight => config.adaptation.loadWeight
  | .latencyWeight => config.adaptation.latencyWeight
  | .historyCapacity => config.adaptation.historyCapacity
  | .powerSaveMode => config.adaptation.powerSaveMode
  | .performanceBoost => config.adaptation.performanceBoost
  | .powerBudgetW => config.thermal.powerBudgetW
  | .perWorkerPowerW => config.thermal.perWorkerPowerW
  | .idlePowerW => config.thermal.idlePowerW
  | .ambientC => config.thermal.ambientC
  | .tempPerWorkerC => config.thermal.tempPerWorkerC
  | .safetyThresholdC => config.thermal.safetyThresholdC
  | .hysteresisC => config.thermal.hysteresisC
  | .reclaim => config.thermal.reclaim
  | .slaBacklog => config.quality.slaBacklog
  | .slaWindowRounds => config.quality.slaWindowRounds
  | .emergencyMode => config.quality.emergencyMode
  | .deviationThreshold => config.security.deviationThreshold
  | .lockdownThreshold => config.security.lockdownThreshold
  | .emaAlpha => config.collector.emaAlpha

attribute [ext] PoolSettings QueueSettings AdaptationSettings ThermalSettings QualitySettings
  SecuritySettings CollectorSettings

/-- A configuration is its settings. -/
theorem eq_of_get_eq {first second : Configuration}
    (same : ∀ setting, first.get setting = second.get setting) : first = second := by
  have pool : first.pool = second.pool :=
    PoolSettings.ext (same .workers) (same .partitionMode) (same .searchSpace)
      (same .faultTimeoutFactor) (same .faultMinRounds) (same .maxPayloadBytes)
      (same .roundIntervalMs)
  have queues : first.queues = second.queues :=
    QueueSettings.ext (same .capacity) (same .tierCapacity) (same .reclaimHeadroom)
  have adaptation : first.adaptation = second.adaptation :=
    AdaptationSettings.ext (same .windowRounds) (same .highUtilizationPct)
      (same .lowUtilizationPct) (same .loadWeight) (same .latencyWeight) (same .historyCapacity)
      (same .powerSaveMode) (same .performanceBoost)
  have thermal : first.thermal = second.thermal :=
    ThermalSettings.ext (same .powerBudgetW) (same .perWorkerPowerW) (same .idlePowerW)
      (same .ambientC) (same .tempPerWorkerC) (same .safetyThresholdC) (same .hysteresisC)
      (same .reclaim)
  have quality : first.quality = second.quality :=
    QualitySettings.ext (same .slaBacklog) (same .slaWindowRounds) (same .emergencyMode)
  have security : first.security = second.security :=
    SecuritySettings.ext (same .deviationThreshold) (same .lockdownThreshold)
  have collector : first.collector = second.collector :=
    CollectorSettings.ext (same .emaAlpha)
  obtain ⟨_, _, _, _, _, _, _⟩ := first
  obtain ⟨_, _, _, _, _, _, _⟩ := second
  congr

/-- Where a document holds a value, and how it is read. -/
structure Entry (α : Type) where
  table : String
  /-- Place in a section that is written as an array. -/
  position : Nat
  key : String
  read : Toml.Value → Option α

/-- Where a document holds a setting. -/
def Setting.entry : (setting : Setting) → Entry setting.Value
  | .workers => ⟨"pool", 0, "workers", naturalOf? greatestWord⟩
  | .partitionMode => ⟨"pool", 1, "partition_mode", truthOf?⟩
  | .searchSpace => ⟨"pool", 2, "search_space", naturalOf? greatestWord⟩
  | .faultTimeoutFactor => ⟨"pool", 3, "fault_timeout_factor", floatOf?⟩
  | .faultMinRounds => ⟨"pool", 4, "fault_min_rounds", naturalOf? greatestWord⟩
  | .maxPayloadBytes => ⟨"pool", 5, "max_payload_bytes", naturalOf? greatestWord⟩
  | .roundIntervalMs => ⟨"pool", 6, "round_interval_ms", naturalOf? greatestWord⟩
  | .capacity => ⟨"queues", 0, "capacity", naturalOf? greatestWord⟩
  | .tierCapacity => ⟨"queues", 1, "tier_capacity", capacitiesOf?⟩
  | .reclaimHeadroom => ⟨"queues", 2, "reclaim_headroom", naturalOf? greatestWord⟩
  | .windowRounds => ⟨"adaptation", 0, "window_rounds", naturalOf? greatestWord⟩
  | .highUtilizationPct => ⟨"adaptation", 1, "high_utilization_pct", floatOf?⟩
  | .lowUtilizationPct => ⟨"adaptation", 2, "low_utilization_pct", floatOf?⟩
  | .loadWeight => ⟨"adaptation", 3, "load_weight", naturalOf? greatestHalfWord⟩
  | .latencyWeight => ⟨"adaptation", 4, "latency_weight", naturalOf? greatestHalfWord⟩
  | .historyCapacity => ⟨"adaptation", 5, "history_capacity", naturalOf? greatestWord⟩
  | .powerSaveMode => ⟨"adaptation", 6, "power_save_mode", truthOf?⟩
  | .performanceBoost => ⟨"adaptation", 7, "performance_boost", truthOf?⟩
  | .powerBudgetW => ⟨"thermal", 0, "power_budget_w", floatOf?⟩
  | .perWorkerPowerW => ⟨"thermal", 1, "per_worker_power_w", floatOf?⟩
  | .idlePowerW => ⟨"thermal", 2, "idle_power_w", floatOf?⟩
  | .ambientC => ⟨"thermal", 3, "ambient_c", floatOf?⟩
  | .tempPerWorkerC => ⟨"thermal", 4, "temp_per_worker_c", floatOf?⟩
  | .safetyThresholdC => ⟨"thermal", 5, "safety_threshold_c", floatOf?⟩
  | .hysteresisC => ⟨"thermal", 6, "hysteresis_c", floatOf?⟩
  | .reclaim => ⟨"thermal", 7, "reclaim", reclaimOf?⟩
  | .slaBacklog => ⟨"qos", 0, "sla_backlog", naturalOf? greatestWord⟩
  | .slaWindowRounds => ⟨"qos", 1, "sla_window_rounds", naturalOf? greatestHalfWord⟩
  | .emergencyMode => ⟨"qos", 2, "emergency_mode", truthOf?⟩
  | .deviationThreshold => ⟨"security", 0, "deviation_threshold", floatOf?⟩
  | .lockdownThreshold => ⟨"security", 1, "lockdown_threshold", naturalOf? greatestHalfWord⟩
  | .emaAlpha => ⟨"collector", 0, "ema_alpha", binary64Of?⟩

namespace Setting

variable (entries : Toml.Entries) (setting : Setting)

/-- The value that stands if nothing sets a setting. -/
def default : setting.Value :=
  ({} : Configuration).get setting

/-- What a document holds for a setting. -/
def written? : Option Toml.Value :=
  (Fields.of? (entries.lookup setting.entry.table)).bind
    (·.value? setting.entry.position setting.entry.key)

/-- The setting as a document has it, or else its default. -/
def stored : setting.Value :=
  ((setting.written? entries).bind setting.entry.read).getD setting.default

end Setting

variable {entries : Toml.Entries} {config : Configuration}

/-- A document that is read as a configuration is read field by field. -/
theorem get?_of_ofEntries? (described : ofEntries? entries = some config) (setting : Setting) :
    ∃ fields, Fields.of? (entries.lookup setting.entry.table) = some fields ∧
      fields.get? setting.entry.position setting.entry.key setting.entry.read setting.default =
        some (config.get setting) := by
  simp only [ofEntries?, Option.bind_eq_bind, Option.bind_eq_some_iff, pure, Option.some.injEq]
    at described
  obtain ⟨_, _, _, pool, _, _, _, queues, _, _, _, adaptation, _, _, _, thermal, _, _, _, quality,
    _, _, _, security, _, _, _, collector, rfl⟩ := described
  -- In every section, one value after the other is read.
  simp only [poolOf?, queuesOf?, adaptationOf?, thermalOf?, qualityOf?, securityOf?, collectorOf?,
    Option.bind_eq_bind, Option.bind_eq_some_iff, pure, Option.some.injEq]
    at pool queues adaptation thermal quality security collector
  obtain ⟨_, _, _, _, _, _, _, _, _, _, _, _, _, _, rfl⟩ := pool
  obtain ⟨_, _, _, _, _, _, rfl⟩ := queues
  obtain ⟨_, _, _, _, _, _, _, _, _, _, _, _, _, _, _, _, rfl⟩ := adaptation
  obtain ⟨_, _, _, _, _, _, _, _, _, _, _, _, _, _, _, _, rfl⟩ := thermal
  obtain ⟨_, _, _, _, _, _, rfl⟩ := quality
  obtain ⟨_, _, _, _, rfl⟩ := security
  obtain ⟨_, _, rfl⟩ := collector
  cases setting
  all_goals exact ⟨_, by assumption, by assumption⟩

/-- What a document holds for a setting can be read, and it is what the setting is set to. -/
theorem read_of_written? (described : ofEntries? entries = some config) {setting : Setting}
    {value : Toml.Value} (written : setting.written? entries = some value) :
    setting.entry.read value = some (config.get setting) := by
  obtain ⟨fields, found, read⟩ := get?_of_ofEntries? described setting
  rw [Setting.written?, found, Option.bind_some] at written
  rwa [Fields.get?, written] at read

/-- A setting has the value that the document stores, or its default. -/
theorem get_eq_stored (described : ofEntries? entries = some config) (setting : Setting) :
    config.get setting = setting.stored entries := by
  cases written : setting.written? entries with
  | some value =>
      have read := read_of_written? described written
      rw [Setting.stored, written, Option.bind_some, read]
      rfl
  | none =>
      obtain ⟨fields, found, read⟩ := get?_of_ofEntries? described setting
      have missing := written
      rw [Setting.written?, found, Option.bind_some] at missing
      rw [Fields.get?, missing] at read
      rw [Setting.stored, written]
      exact (Option.some.inj read).symm

end Configuration

end PoolArbiter
