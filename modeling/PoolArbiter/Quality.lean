import PoolArbiter.Binary64
import PoolArbiter.Configuration.Basic

/-!
# Service quality

Each round the share of the queues in use and the share of the workers at work
give a load factor. The level moves by at most one step a round towards the
level that the load factor, a violation of the service limit or the emergency
mode calls for.
-/

namespace PoolArbiter

/-- What is known of the service quality. -/
structure QualityState where
  level : Nat
  violations : Nat
  escalations : Nat
  /-- Mean of the two shares, in percent. -/
  loadFactor : Float

/-- The tracker of service quality. -/
structure QualityTracker where
  slaBacklog : Nat
  slaWindow : Nat
  queueCapacity : Nat
  /-- Rounds in a row over the limit since the last violation. -/
  streak : Nat
  state : QualityState

namespace QualityTracker

/-- The highest level. -/
def greatestLevel : Nat :=
  4

/-- A tracker before the first round. -/
def fresh (settings : QualitySettings) (queueCapacity : Nat) : QualityTracker where
  slaBacklog := settings.slaBacklog
  slaWindow := max 1 settings.slaWindowRounds
  queueCapacity := queueCapacity
  streak := 0
  state := { level := 0, violations := 0, escalations := 0, loadFactor := 0 }

/-- A part of a whole in percent, at most one hundred; zero of nothing. -/
def percent (part whole : Nat) : Float :=
  if whole = 0 then 0
  else Binary64.atMost 100 (Float.ofNat part / Float.ofNat whole * 100)

/-- The level of a load factor: a step for every twenty points, at most three. -/
def band (loadFactor : Float) : Nat :=
  if loadFactor < 20 then 0
  else if loadFactor < 40 then 1
  else if loadFactor < 60 then 2
  else 3

/-- Mean of the shares of the queues and of the workers in use. -/
def loadFactor (tracker : QualityTracker) (backlog active total : Nat) : Float :=
  (percent backlog tracker.queueCapacity + percent active total) / 2

/-- The rounds over the limit after a round with this backlog, and whether they
make a violation; a violation starts the count anew. -/
def countStreak (tracker : QualityTracker) (backlog : Nat) : Nat × Bool :=
  if tracker.slaBacklog < backlog then
    if tracker.slaWindow ≤ tracker.streak + 1 then (0, true)
    else (tracker.streak + 1, false)
  else
    (0, false)

/-- The level that a round calls for. -/
def target (level : Nat) (loadFactor : Float) (violated emergency : Bool) : Nat :=
  if emergency then greatestLevel
  else if violated then min (level + 1) greatestLevel
  else band loadFactor

/-- Observe a round. -/
def observe (tracker : QualityTracker) (backlog active total : Nat) (emergency : Bool) :
    QualityTracker :=
  let load := tracker.loadFactor backlog active total
  let (streak, violated) := tracker.countStreak backlog
  let current := tracker.state.level
  let goal := target current load violated emergency
  { tracker with
    streak := streak
    state :=
      { level :=
          if current < goal then current + 1
          else if goal < current then current - 1
          else current
        violations := tracker.state.violations + if violated then 1 else 0
        escalations := tracker.state.escalations + if current < goal then 1 else 0
        loadFactor := load } }

end QualityTracker

end PoolArbiter
