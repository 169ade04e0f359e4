import PoolArbiter.Binary64
import PoolArbiter.Feed
import PoolArbiter.Worker.Pool

/-!
# Power and heat

The governor limits how many workers may be at work: to what the power budget
can feed, and after overheating to a ceiling that only falls until the
temperature has recovered.
-/

namespace PoolArbiter

/-- What the governor found in a round. -/
structure ThermalState where
  /-- How many workers may be at work. -/
  activeCap : Nat
  power : Float
  temperature : Float
  throttled : Bool

/-- The governor of power and heat. -/
structure Governor where
  settings : ThermalSettings
  poolSize : Nat
  budget : Float
  /-- The ceiling since overheating began. -/
  ceiling : Option Nat
  state : ThermalState

namespace Governor

/-- How many workers a budget can feed, at most the whole pool. A small amount is
added before rounding down, so that a whole quotient is not missed by a rounding
error. -/
def feedable (settings : ThermalSettings) (poolSize : Nat) (budget : Float) : Nat :=
  let usable := Binary64.atLeastZero (budget - settings.idlePowerW)
  min (Binary64.floorWord (usable / settings.perWorkerPowerW + 1e-9)) poolSize

/-- How many workers the current budget can feed. -/
def powerCap (governor : Governor) : Nat :=
  feedable governor.settings governor.poolSize governor.budget

/-- A governor before the first round. -/
def fresh (settings : ThermalSettings) (poolSize : Nat) : Governor where
  settings := settings
  poolSize := poolSize
  budget := settings.powerBudgetW
  ceiling := none
  state :=
    { activeCap := feedable settings poolSize settings.powerBudgetW
      power := settings.idlePowerW
      temperature := settings.ambientC
      throttled := false }

/-- Set the budget; a negative one counts as zero. -/
def withBudget (governor : Governor) (watts : Float) : Governor :=
  { governor with budget := Binary64.atLeastZero watts }

/-- The power and temperature expected for a number of workers at work. -/
def model (settings : ThermalSettings) (active : Nat) : SensorReading where
  power := settings.idlePowerW + Float.ofNat active * settings.perWorkerPowerW
  temperature := settings.ambientC + Float.ofNat active * settings.tempPerWorkerC

/-- How many workers must go to bring a temperature down to the threshold. -/
def shed (settings : ThermalSettings) (active : Nat) (temperature : Float) : Nat :=
  if 0 < settings.tempPerWorkerC then
    Binary64.ceilWord ((temperature - settings.safetyThresholdC) / settings.tempPerWorkerC)
  else
    active

/-- The ceiling and the throttle after a temperature. Above the threshold the
ceiling falls by at least one worker; the throttle ends when the temperature is
below the threshold by more than the hysteresis. -/
def throttle (governor : Governor) (active : Nat) (temperature : Float) :
    Option Nat × Bool :=
  let settings := governor.settings
  if settings.safetyThresholdC < temperature then
    let cap := active - max 1 (shed settings active temperature)
    (some (governor.ceiling.elim cap (min · cap)), true)
  else if governor.state.throttled &&
      temperature < settings.safetyThresholdC - settings.hysteresisC then
    (none, false)
  else
    (governor.ceiling, governor.state.throttled)

/-- Take the temperature of a round, measured or expected, and set the cap. -/
def recompute (governor : Governor) (active : Nat) (sensor : Option SensorReading) :
    Governor :=
  let reading := sensor.getD (model governor.settings active)
  let (ceiling, throttled) := governor.throttle active reading.temperature
  { governor with
    ceiling := ceiling
    state :=
      { activeCap := ceiling.elim governor.powerCap (min · governor.powerCap)
        power := reading.power
        temperature := reading.temperature
        throttled := throttled } }

/-- The workers above the cap: of those at work, the ones of highest number. -/
def excess (governor : Governor) (pool : WorkerPool) : List WorkerId :=
  let active := pool.activeDescending
  active.take (active.length - governor.state.activeCap)

end Governor

end PoolArbiter
