import PoolArbiter.Data.Recent
import PoolArbiter.Data.Word
import PoolArbiter.Feed
import PoolArbiter.Policy

/-!
# Policy adaptation

Once per window of rounds the policy is chosen anew from the mean utilization of
the window and the switches of the operator. A policy is replaced only by one of
another kind.
-/

namespace PoolArbiter

/-- The samples of the current window and the means of the past ones. -/
structure Adaptation where
  window : Nat
  roundsInWindow : Nat
  sampleSum : Float
  sampleCount : Nat
  highPct : Float
  lowPct : Float
  loadWeight : Nat
  latencyWeight : Nat
  history : Recent Float

namespace Adaptation

/-- An adaptation at the start of its first window. -/
def fresh (settings : AdaptationSettings) : Adaptation where
  window := max 1 settings.windowRounds
  roundsInWindow := 0
  sampleSum := 0
  sampleCount := 0
  highPct := settings.highUtilizationPct
  lowPct := settings.lowUtilizationPct
  loadWeight := settings.loadWeight
  latencyWeight := settings.latencyWeight
  history := .ofCapacity settings.historyCapacity

/-- The policy of a kind with the configured weights. -/
def policyOf (adaptation : Adaptation) (kind : PolicyKind) : Policy :=
  .ofKind kind adaptation.loadWeight adaptation.latencyWeight

/-- The policy before the first window has closed. -/
def initialPolicy (adaptation : Adaptation) : Policy :=
  adaptation.policyOf .performanceAware

/-- The kind of policy for a utilization: saving power goes first, then the
performance boost, then a high and a low load. -/
def choose (adaptation : Adaptation) (utilization : Float) (modes : Modes) : PolicyKind :=
  if modes.powerSave then .roundRobin
  else if modes.performanceBoost then .performanceAware
  else if adaptation.highPct < utilization then .loadBalanced
  else if utilization < adaptation.lowPct then .priorityBased
  else .performanceAware

/-- Add a sample to the current window. -/
def sample (adaptation : Adaptation) (utilization : Float) : Adaptation :=
  { adaptation with
    sampleSum := adaptation.sampleSum + utilization
    sampleCount := adaptation.sampleCount + 1
    roundsInWindow := adaptation.roundsInWindow + 1 }

/-- The mean of the samples of the current window. -/
def mean (adaptation : Adaptation) : Float :=
  adaptation.sampleSum / Float.ofNat adaptation.sampleCount

/-- Start a new window and keep the mean of the old one. -/
def closeWindow (adaptation : Adaptation) : Adaptation :=
  { adaptation with
    history := adaptation.history.push adaptation.mean
    roundsInWindow := 0
    sampleSum := 0
    sampleCount := 0 }

/-- Take the sample of a round. At the end of a window the result may hold a new
policy of another kind than the current one. -/
def onRound (adaptation : Adaptation) (utilization : Float) (current : Policy)
    (modes : Modes) : Adaptation × Option Policy :=
  let sampled := adaptation.sample utilization
  if sampled.roundsInWindow < sampled.window then
    (sampled, none)
  else
    let kind := sampled.choose sampled.mean modes
    (sampled.closeWindow,
      if kind = current.kind then none else some (sampled.policyOf kind))

/-- Slack of the starvation guard at a quality level: the higher the level, the
later a starved tier goes first. -/
def slackFor (adaptation : Adaptation) (level : Nat) : Nat :=
  if level ≤ 1 then Word.wrap adaptation.window / 4 else if level = 2 then 1 else 0

end Adaptation

end PoolArbiter
