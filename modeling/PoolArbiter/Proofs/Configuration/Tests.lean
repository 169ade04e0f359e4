import PoolArbiter.Refusal

/-!
# The tests of a configuration

`Configuration.Passes` names what an accepted configuration has passed, test by test, and
`isAccepted_iff_passes` says that this is all there is to acceptance. What is said of a float
is the test as it stands, with its outcome for a value that is not a number.
-/

namespace PoolArbiter

namespace Configuration

/-- A configuration passes all tests. -/
structure Passes (config : Configuration) : Prop where
  workers : 0 < config.pool.workers
  searchSpace : config.pool.partitionMode = true →
    config.pool.workers ≤ config.pool.searchSpace
  faultFactor : ¬config.pool.faultTimeoutFactor ≤ 0
  entries : ∀ entry ∈ config.queues.tierCapacity.entries,
    (∃ tier, Tier.ofText? entry.1 = some tier) ∧ 0 < entry.2
  capacity : 0 < config.queues.capacity
  windowRounds : 0 < config.adaptation.windowRounds
  utilization : ¬config.adaptation.highUtilizationPct ≤ config.adaptation.lowUtilizationPct
  workerPower : ¬config.thermal.perWorkerPowerW ≤ 0
  temperature : ¬config.thermal.tempPerWorkerC < 0
  hysteresis : ¬config.thermal.hysteresisC < 0
  smoothing_pos : 0 < config.collector.emaAlpha.toFloat
  smoothing_le_one : config.collector.emaAlpha.toFloat ≤ 1
  lockdownThreshold : 0 < config.security.lockdownThreshold

/-- An entry has no fault if it gives a tier some room. -/
theorem entryFault?_eq_none_iff (entry : String × Nat) :
    QueueSettings.entryFault? entry = none ↔
      (∃ tier, Tier.ofText? entry.1 = some tier) ∧ 0 < entry.2 := by
  unfold QueueSettings.entryFault?
  cases Tier.ofText? entry.1 <;> simp [Nat.pos_iff_ne_zero]

/-- A configuration is accepted if it passes all tests. -/
theorem isAccepted_iff_passes (config : Configuration) : config.IsAccepted ↔ config.Passes := by
  unfold IsAccepted fault? tests
  simp only [List.findSome?_eq_none_iff, List.forall_mem_cons, List.not_mem_nil,
    false_imp_iff, implies_true, and_true, id, ite_eq_right_iff, ite_eq_left_iff, reduceCtorEq,
    imp_false, entryFault?_eq_none_iff, not_and, not_or, Nat.not_lt,
    Classical.not_imp, Classical.not_not, ← ne_eq, ← Nat.pos_iff_ne_zero]
  constructor
  · rintro ⟨workers, searchSpace, faultFactor, entries, capacity, windowRounds, utilization,
      workerPower, ⟨temperature, hysteresis⟩, ⟨smoothing_pos, smoothing_le_one⟩,
      lockdownThreshold⟩
    exact ⟨workers, searchSpace, faultFactor, entries, capacity, windowRounds, utilization,
      workerPower, temperature, hysteresis, smoothing_pos, smoothing_le_one,
      lockdownThreshold⟩
  · rintro ⟨workers, searchSpace, faultFactor, entries, capacity, windowRounds, utilization,
      workerPower, temperature, hysteresis, smoothing_pos, smoothing_le_one, lockdownThreshold⟩
    exact ⟨workers, searchSpace, faultFactor, entries, capacity, windowRounds, utilization,
      workerPower, ⟨temperature, hysteresis⟩, ⟨smoothing_pos, smoothing_le_one⟩,
      lockdownThreshold⟩

/-- An accepted configuration passes every test. -/
theorem IsAccepted.passes {config : Configuration} (accepted : config.IsAccepted) :
    config.Passes :=
  (isAccepted_iff_passes config).1 accepted

/-- The check succeeds exactly if the configuration is accepted. -/
theorem check_eq_ok_iff (config : Configuration) :
    config.check = .ok () ↔ config.IsAccepted := by
  unfold check IsAccepted
  cases config.fault? <;> simp

end Configuration

end PoolArbiter
