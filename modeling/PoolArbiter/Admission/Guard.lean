import PoolArbiter.Data.Word
import PoolArbiter.Tier

/-!
# The starvation guard

The guard remembers which tiers were served in the current window of rounds. A
tier that waits and was not served is starved. Once the rounds left in the
window are no more than the starved tiers plus a slack, the first starved tier
is overdue and goes before all others. The sum is that of two words, and starts over
from zero beyond the greatest one.
-/

namespace PoolArbiter

/-- Service record of one window. -/
structure StarvationGuard where
  /-- Length of a window in rounds, at least one. -/
  window : Nat
  roundInWindow : Nat
  serviced : PerTier Bool
  slack : Nat
  deriving DecidableEq, Repr

namespace StarvationGuard

/-- A guard at the start of its first window; a quarter of it is the slack. -/
def fresh (window : Nat) : StarvationGuard where
  window := max 1 window
  roundInWindow := 0
  serviced := .tabulate fun _ => false
  slack := Word.wrap window / 4

/-- The waiting tiers that were not served in this window, in service order. -/
def starved (guard : StarvationGuard) (depths : PerTier Nat) : List Tier :=
  Tier.all.filter fun tier => 0 < depths.get tier && !guard.serviced.get tier

/-- The rounds before the end of the window at which a starved tier stops to wait: one for
each starved tier, and the slack. -/
def patience (guard : StarvationGuard) (depths : PerTier Nat) : Nat :=
  Word.wrap ((guard.starved depths).length + guard.slack)

/-- The first starved tier, if the window leaves no more time to wait. -/
def overdue? (guard : StarvationGuard) (depths : PerTier Nat) : Option Tier :=
  if guard.window - guard.roundInWindow ≤ guard.patience depths then
    (guard.starved depths).head?
  else
    none

/-- The first tier in service order that waits. -/
def firstWaiting? (depths : PerTier Nat) : Option Tier :=
  Tier.all.find? fun tier => 0 < depths.get tier

/-- The tier to serve: the overdue one, else the first that waits. -/
def choose? (guard : StarvationGuard) (depths : PerTier Nat) : Option Tier :=
  (guard.overdue? depths).or (firstWaiting? depths)

/-- Note that a tier was served. -/
def markServiced (guard : StarvationGuard) (tier : Tier) : StarvationGuard :=
  { guard with serviced := guard.serviced.set tier true }

/-- Start a new window. -/
def restart (guard : StarvationGuard) : StarvationGuard :=
  { guard with roundInWindow := 0, serviced := .tabulate fun _ => false }

/-- Go to the next round, which may be the first of a new window. -/
def advance (guard : StarvationGuard) : StarvationGuard :=
  let next := { guard with roundInWindow := guard.roundInWindow + 1 }
  if guard.window ≤ next.roundInWindow then next.restart else next

/-- Set the slack. -/
def withSlack (guard : StarvationGuard) (slack : Nat) : StarvationGuard :=
  { guard with slack := slack }

end StarvationGuard

end PoolArbiter
