import PoolArbiter.Controller.Round

/-!
# Operations on the controller

Everything that can be asked of a controller between two rounds, each as a
function from the state before to the state after, and the loop in which a clock
drives the rounds.
-/

namespace PoolArbiter.Controller

/-- Submit a payload. A number is used up even if the queue refuses the item; a
lockdown refuses before that. -/
def submit (controller : Controller) (payload : Payload) (tier : Tier) :
    Controller × Except Refusal WorkId :=
  if controller.gate.lockdown then
    (controller, .error .lockdown)
  else
    let id := controller.nextId
    let numbered := { controller with nextId := id + 1 }
    match controller.queues.enqueue ⟨id, tier, payload, controller.round⟩ with
    | .ok queues => ({ numbered with queues := queues }, .ok id)
    | .error refusal => (numbered, .error refusal)

/-- Send a report into the feed. -/
def receive (controller : Controller) (report : Report) : Controller :=
  { controller with feed := controller.feed ++ [report] }

/-- Set the switches. -/
def withModes (controller : Controller) (modes : Modes) : Controller :=
  { controller with modes := modes }

/-- Set the power budget. -/
def withBudget (controller : Controller) (watts : Float) : Controller :=
  { controller with governor := controller.governor.withBudget watts }

/-- Forget all that is known of an item apart from its record. -/
def forgetItem (controller : Controller) (work : WorkId) : Controller :=
  { controller with
    faultRetries := controller.faultRetries.erase work
    collector := controller.collector.forget work }

/-- Count drops that happen outside a round. -/
def recordDrops (controller : Controller) (drops : List DropRecord) : Controller :=
  { controller with ledger := controller.ledger.recordDrops drops }

/-- Take an item out of its queue. -/
def withdraw (controller : Controller) (work : WorkId) :
    Controller × Except Refusal DropRecord :=
  match controller.queues.withdraw? work with
  | none => (controller, .error (.notQueued work))
  | some (item, queues) =>
      let drop := item.dropRecord .withdrawn controller.round
      (({ controller with queues := queues }.forgetItem item.id).recordDrops [drop], .ok drop)

/-- Take the item from one worker at work. -/
def drainWorker (progress : Controller × List DropRecord) (worker : WorkerId) :
    Controller × List DropRecord :=
  let (controller, drops) := progress
  let item? := controller.pool.itemOf? worker
  let released := { controller with pool := controller.pool.release worker .idle }
  match item? with
  | none => (released, drops)
  | some item =>
      (released.forgetItem item.id, drops ++ [item.dropRecord .drained controller.round])

/-- Idle all workers at work and drop their items; the queues stay. -/
def drain (controller : Controller) : Controller × List DropRecord :=
  let (drained, drops) :=
    controller.pool.activeDescending.reverse.foldl drainWorker (controller, [])
  (drained.recordDrops drops, drops)

/-- End the lockdown and return excluded workers to service. -/
def resetSecurity (controller : Controller) : Controller :=
  let (gate, pool) := controller.gate.reset controller.pool
  { controller with gate := gate, pool := pool }

/-- The slot of a worker. -/
def worker (controller : Controller) (worker : WorkerId) : Except Refusal WorkerSlot :=
  match controller.pool.slot? worker with
  | some slot => .ok slot
  | none => .error (.unknownWorker worker)

/-- Hand out the stream of hits; that can be done once. -/
def takeHits (controller : Controller) : Controller × Bool :=
  ({ controller with hits := { controller.hits with taken := true } }, !controller.hits.taken)

/-- Read the hits that wait, if the stream was handed out. -/
def readHits (controller : Controller) : Controller × List WorkResult :=
  if controller.hits.taken then
    ({ controller with hits := { controller.hits with waiting := [] } },
      controller.hits.waiting)
  else
    (controller, [])

/-- The reader of a stream that was handed out goes away. -/
def abandonHits (controller : Controller) : Controller :=
  if controller.hits.taken then
    { controller with hits := { controller.hits with waiting := [], abandoned := true } }
  else
    controller

/-- Subscribe to the reports of the rounds that a clock drives. -/
def subscribe (controller : Controller) : Controller :=
  { controller with subscription := .connected [] }

/-- The subscriber goes away. -/
def unsubscribe (controller : Controller) : Controller :=
  match controller.subscription with
  | .connected _ => { controller with subscription := .abandoned }
  | _ => controller

/-- Read the reports that wait for the subscriber. -/
def readReports (controller : Controller) : Controller × List RoundReport :=
  match controller.subscription with
  | .connected waiting => ({ controller with subscription := .connected [] }, waiting)
  | _ => (controller, [])

end PoolArbiter.Controller
