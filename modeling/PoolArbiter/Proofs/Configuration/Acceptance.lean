import PoolArbiter.CommandLine.Load
import PoolArbiter.Proofs.Configuration.Tests
import PoolArbiter.Proofs.Floats.Order

/-!
# What is accepted

Most tests of a float reject what is out of range, and what is not a number is not out of range.
So it takes more than acceptance to make a configuration sensible: the floats that are tested in
this way have to be numbers, and this is all that it takes. The test of the smoothing weight asks
for a value in range instead and lets numbers pass only.
-/

namespace PoolArbiter

namespace Configuration

open Unpacking (number?)

/-- A configuration with settings that make sense. What is asked of a float is asked of the
number that it stands for, so such a float is a number. -/
structure IsSensible (config : Configuration) : Prop where
  workers : 1 ≤ config.pool.workers
  searchSpace : config.pool.partitionMode = true →
    config.pool.workers ≤ config.pool.searchSpace
  faultFactor : ∃ factor ∈ number? config.pool.faultTimeoutFactor, 0 < factor
  entries : ∀ entry ∈ config.queues.tierCapacity.entries,
    (∃ tier, Tier.ofText? entry.1 = some tier) ∧ 1 ≤ entry.2
  capacity : 1 ≤ config.queues.capacity
  windowRounds : 1 ≤ config.adaptation.windowRounds
  utilization : ∃ low ∈ number? config.adaptation.lowUtilizationPct,
    ∃ high ∈ number? config.adaptation.highUtilizationPct, low < high
  workerPower : ∃ power ∈ number? config.thermal.perWorkerPowerW, 0 < power
  temperature : ∃ rise ∈ number? config.thermal.tempPerWorkerC, 0 ≤ rise
  hysteresis : ∃ margin ∈ number? config.thermal.hysteresisC, 0 ≤ margin
  smoothing : ∃ weight ∈ number? config.collector.emaAlpha.toFloat, 0 < weight ∧ weight ≤ 1
  lockdownThreshold : 1 ≤ config.security.lockdownThreshold

/-- The floats whose range is tested by what is out of it are numbers. -/
structure IsNumeric (config : Configuration) : Prop where
  faultFactor : config.pool.faultTimeoutFactor.isNaN = false
  low : config.adaptation.lowUtilizationPct.isNaN = false
  high : config.adaptation.highUtilizationPct.isNaN = false
  workerPower : config.thermal.perWorkerPowerW.isNaN = false
  temperature : config.thermal.tempPerWorkerC.isNaN = false
  hysteresis : config.thermal.hysteresisC.isNaN = false

/-- The weight is in range if it stands for a number in range. -/
theorem smoothing_iff (weight : Float) :
    (∃ number ∈ number? weight, 0 < number ∧ number ≤ 1) ↔ 0 < weight ∧ weight ≤ 1 := by
  rw [Unpacking.lt_iff, Unpacking.le_iff, Unpacking.number?_zero, Unpacking.number?_one]
  cases number? weight <;> simp

/-- A configuration is sensible exactly if it is accepted and its floats are numbers. -/
theorem isSensible_iff (config : Configuration) :
    config.IsSensible ↔ config.check = .ok () ∧ config.IsNumeric := by
  rw [check_eq_ok_iff, isAccepted_iff_passes]
  constructor
  · intro sensible
    obtain ⟨factorNumber, factorPositive⟩ := (Unpacking.exists_pos_iff _).1 sensible.faultFactor
    obtain ⟨powerNumber, powerPositive⟩ := (Unpacking.exists_pos_iff _).1 sensible.workerPower
    obtain ⟨temperatureNumber, temperatureNonneg⟩ :=
      (Unpacking.exists_nonneg_iff _).1 sensible.temperature
    obtain ⟨hysteresisNumber, hysteresisNonneg⟩ :=
      (Unpacking.exists_nonneg_iff _).1 sensible.hysteresis
    obtain ⟨lowNumber, highNumber, ordered⟩ :=
      (Unpacking.exists_lt_iff _ _).1 sensible.utilization
    obtain ⟨smoothing_pos, smoothing_le_one⟩ := (smoothing_iff _).1 sensible.smoothing
    have passes : config.Passes := {
      workers := sensible.workers
      searchSpace := sensible.searchSpace
      faultFactor := factorPositive
      entries := sensible.entries
      capacity := sensible.capacity
      windowRounds := sensible.windowRounds
      utilization := ordered
      workerPower := powerPositive
      temperature := temperatureNonneg
      hysteresis := hysteresisNonneg
      smoothing_pos := smoothing_pos
      smoothing_le_one := smoothing_le_one
      lockdownThreshold := sensible.lockdownThreshold }
    exact ⟨passes, factorNumber, lowNumber, highNumber, powerNumber, temperatureNumber,
      hysteresisNumber⟩
  · rintro ⟨passes, numeric⟩
    exact {
      workers := passes.workers
      searchSpace := passes.searchSpace
      faultFactor := (Unpacking.exists_pos_iff _).2 ⟨numeric.faultFactor, passes.faultFactor⟩
      entries := passes.entries
      capacity := passes.capacity
      windowRounds := passes.windowRounds
      utilization := (Unpacking.exists_lt_iff _ _).2
        ⟨numeric.low, numeric.high, passes.utilization⟩
      workerPower := (Unpacking.exists_pos_iff _).2 ⟨numeric.workerPower, passes.workerPower⟩
      temperature := (Unpacking.exists_nonneg_iff _).2
        ⟨numeric.temperature, passes.temperature⟩
      hysteresis := (Unpacking.exists_nonneg_iff _).2 ⟨numeric.hysteresis, passes.hysteresis⟩
      smoothing := (smoothing_iff _).2 ⟨passes.smoothing_pos, passes.smoothing_le_one⟩
      lockdownThreshold := passes.lockdownThreshold }

/-- A document may set a factor that is not a number, and it is loaded. -/
theorem not_forall_loaded_isSensible :
    ¬∀ document environment config,
      ofDocument document environment = .ok config → config.IsSensible := by
  intro sensible
  have loads : (ofDocument "[pool]\nfault_timeout_factor = nan\n" .empty).toOption.any
      (·.pool.faultTimeoutFactor.isNaN) = true := by
    decide +kernel
  cases loaded : ofDocument "[pool]\nfault_timeout_factor = nan\n" .empty with
  | error refusal =>
      rw [loaded] at loads
      cases loads
  | ok config =>
      rw [loaded] at loads
      have undefined : config.pool.faultTimeoutFactor.isNaN = true := loads
      have factor := (sensible _ _ config loaded).faultFactor
      rw [Unpacking.exists_pos_iff, undefined] at factor
      cases factor.1

end Configuration

end PoolArbiter
