import PoolArbiter.Adaptation
import PoolArbiter.Collection
import PoolArbiter.Ledger
import PoolArbiter.Quality
import PoolArbiter.Thermal
import PoolArbiter.Trust

/-!
# The controller

The controller owns the queues, the pool and everything that decides between
them. It is a plain value: every operation yields the controller after it. This
module holds the state, its start, and what a round reports.
-/

namespace PoolArbiter

/-- An item handed to a worker. -/
structure Assignment where
  worker : WorkerId
  work : WorkId
  tier : Tier
  range : SearchRange
  payload : Payload
  deriving DecidableEq, Repr

/-- A change of the kind of policy. -/
structure PolicySwitch where
  before : PolicyKind
  after : PolicyKind
  deriving DecidableEq, Repr

/-- What a round has done so far. -/
structure RoundLog where
  assignments : List Assignment := []
  results : List WorkResult := []
  drops : List DropRecord := []
  /-- Items put back at the head of their tier. -/
  requeued : List WorkId := []
  /-- Workers that ran past their time. -/
  faulted : List WorkerId := []
  /-- Workers excluded by the trust gate. -/
  excluded : List WorkerId := []
  /-- Workers idled to save power or heat. -/
  forcedIdle : List WorkerId := []
  policySwitch : Option PolicySwitch := none
  lockdownRaised : Bool := false
  /-- Number of items taken back from excluded workers. -/
  securityReclaims : Nat := 0

/-- Everything that one round decided. -/
structure RoundReport where
  round : Round
  log : RoundLog
  telemetry : Telemetry

/-- The stream of hits. Hits wait until they are read; once the reader has gone
they are lost. -/
structure HitStream where
  waiting : List WorkResult := []
  /-- Whether the stream was handed out. -/
  taken : Bool := false
  /-- Whether the reader has gone. -/
  abandoned : Bool := false

namespace HitStream

/-- Put a result into the stream if it is a hit. -/
def publish (stream : HitStream) (result : WorkResult) : HitStream :=
  if result.outcome.isFound && !stream.abandoned then
    { stream with waiting := stream.waiting ++ [result] }
  else
    stream

end HitStream

/-- Who receives the reports of the rounds that a clock drives. -/
inductive Subscription where
  | none
  /-- The subscriber is there; these reports wait for it. -/
  | connected (waiting : List RoundReport)
  /-- The subscriber has gone, and nobody has noticed yet. -/
  | abandoned

namespace Subscription

/-- Send a report. A subscriber that has gone is forgotten. -/
def deliver (subscription : Subscription) (report : RoundReport) : Subscription :=
  match subscription with
  | .none => .none
  | .connected waiting => .connected (waiting ++ [report])
  | .abandoned => .none

end Subscription

/-- The state of the arbiter between two operations. -/
structure Controller where
  config : Configuration
  round : Round
  /-- The number that the next submission is given. -/
  nextId : WorkId
  queues : AdmissionQueues
  pool : WorkerPool
  policy : Policy
  adaptation : Adaptation
  governor : Governor
  quality : QualityTracker
  gate : TrustGate
  collector : Collector
  feed : List Report
  modes : Modes
  /-- How often each item was taken back from a worker that ran past its time. -/
  faultRetries : KeyMap WorkId Nat
  hits : HitStream
  subscription : Subscription
  ledger : Ledger
  lastTelemetry : Option Telemetry

namespace Controller

/-- A controller for a configuration, checked or not. -/
def start (config : Configuration) : Controller :=
  let adaptation := Adaptation.fresh config.adaptation
  let queues := AdmissionQueues.fresh config.queues adaptation.window config.pool.maxPayloadBytes
  { config := config
    round := 0
    nextId := 1
    queues := queues
    pool :=
      .fresh config.pool.workers config.pool.searchSpace config.pool.partitionMode
    policy := adaptation.initialPolicy
    adaptation := adaptation
    governor := .fresh config.thermal config.pool.workers
    quality := .fresh config.quality queues.totalCapacity
    gate := .fresh config.security
    collector := .fresh config.collector
    feed := []
    modes := .ofConfiguration config
    faultRetries := .empty
    hits := {}
    subscription := .none
    ledger := { currentPolicy := adaptation.initialPolicy.kind }
    lastTelemetry := none }

/-- A controller for a configuration that breaks no constraint. -/
def create (config : Configuration) : Except Refusal Controller :=
  match config.check with
  | .ok () => .ok (start config)
  | .error refusal => .error refusal

end Controller

end PoolArbiter
