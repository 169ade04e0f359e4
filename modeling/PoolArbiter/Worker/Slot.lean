import PoolArbiter.Binary64
import PoolArbiter.Search.Range
import PoolArbiter.Work

/-!
# Worker slots

The state of one worker: what it does, what it holds, and what is known of its
load and speed.
-/

namespace PoolArbiter

/-- What a worker is doing. -/
inductive WorkerState where
  | idle
  /-- It was handed an item this round and turns busy in the next one. -/
  | assigned
  | busy
  /-- It ran past its time; it turns idle again within the same round. -/
  | faulted
  /-- It is excluded until the security state is reset. -/
  | unavailable
  deriving DecidableEq, Repr

namespace WorkerState

/-- The name under which a state is read and written. -/
def name : WorkerState → String
  | .idle => "idle"
  | .assigned => "assigned"
  | .busy => "busy"
  | .faulted => "faulted"
  | .unavailable => "unavailable"

/-- The states in the order of their declaration. -/
def all : List WorkerState :=
  [.idle, .assigned, .busy, .faulted, .unavailable]

/-- The state of exactly this name. -/
def ofName? (text : String) : Option WorkerState :=
  all.find? fun state => state.name == text

/-- Whether a worker in this state is at work. -/
def isActive : WorkerState → Bool
  | .assigned => true
  | .busy => true
  | _ => false

end WorkerState

/-- One slot of the pool. -/
structure WorkerSlot where
  id : WorkerId
  state : WorkerState
  item : Option WorkItem
  range : Option SearchRange
  /-- The round in which the item was handed over. -/
  assignedRound : Option Round
  /-- The load that the worker reported last, in percent. -/
  load : Binary64
  /-- Running mean of the rounds from assignment to completion. -/
  latency : Binary64
  trusted : Bool

namespace WorkerSlot

/-- A slot that has never held an item. -/
def fresh (id : WorkerId) : WorkerSlot where
  id := id
  state := .idle
  item := none
  range := none
  assignedRound := none
  load := .ofFloat 0
  latency := .ofFloat 0
  trusted := true

/-- Whether the worker is at work. -/
def isActive (slot : WorkerSlot) : Bool :=
  slot.state.isActive

/-- Whether the worker may be handed an item: it is idle and trusted. -/
def isEligible (slot : WorkerSlot) : Bool :=
  slot.state == .idle && slot.trusted

/-- The number of the item at work in the slot. -/
def activeWork? (slot : WorkerSlot) : Option WorkId :=
  if slot.isActive then slot.item.map (·.id) else none

/-- Rounds since the item was handed over. -/
def elapsed (slot : WorkerSlot) (round : Round) : Nat :=
  match slot.assignedRound with
  | none => 0
  | some assigned => round - assigned

/-- The slot with an item in it. -/
def take (slot : WorkerSlot) (item : WorkItem) (range : SearchRange) (round : Round) :
    WorkerSlot :=
  { slot with
    state := .assigned, item := some item, range := some range, assignedRound := some round }

/-- The slot without its item, in another state. -/
def vacate (slot : WorkerSlot) (next : WorkerState) : WorkerSlot :=
  { slot with state := next, item := none, range := none, assignedRound := none }

/-- A slot handed an item in the last round is busy from now on. -/
def promote (slot : WorkerSlot) : WorkerSlot :=
  if slot.state = .assigned then { slot with state := .busy } else slot

/-- Turning busy changes no more than the state. -/
theorem promote_eq (slot : WorkerSlot) :
    slot.promote = { slot with state := slot.promote.state } := by
  unfold promote
  split <;> rfl

/-- No slot that took up its work is merely assigned. -/
theorem state_promote_ne (slot : WorkerSlot) : slot.promote.state ≠ .assigned := by
  unfold promote
  split
  · simp
  · assumption

/-- Turning busy keeps a worker at work. -/
theorem isActive_promote (slot : WorkerSlot) : slot.promote.isActive = slot.isActive := by
  unfold promote
  split
  next assigned => simp [isActive, assigned, WorkerState.isActive]
  next => rfl

end WorkerSlot

end PoolArbiter
