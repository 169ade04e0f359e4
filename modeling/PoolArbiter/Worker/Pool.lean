import PoolArbiter.Worker.Slot

/-!
# The worker pool

A fixed number of slots, each found under its number, and the slices of the
search space that belong to them.
-/

namespace PoolArbiter

/-- The slots of all workers and the space that they share. -/
structure WorkerPool where
  slots : List WorkerSlot
  searchSpace : Nat
  /-- Whether each worker has its own slice of the space. -/
  partitioned : Bool

namespace WorkerPool

/-- A pool of idle workers. -/
def fresh (workers searchSpace : Nat) (partitioned : Bool) : WorkerPool where
  slots := (List.range workers).map WorkerSlot.fresh
  searchSpace := searchSpace
  partitioned := partitioned

/-- Number of workers. -/
def size (pool : WorkerPool) : Nat :=
  pool.slots.length

/-- The slot of a worker. -/
def slot? (pool : WorkerPool) (worker : WorkerId) : Option WorkerSlot :=
  pool.slots[worker]?

/-- Change the slot of a worker, if there is one. -/
def update (pool : WorkerPool) (worker : WorkerId) (change : WorkerSlot → WorkerSlot) :
    WorkerPool :=
  { pool with slots := pool.slots.modify worker change }

/-- The slots of workers at work. -/
def activeSlots (pool : WorkerPool) : List WorkerSlot :=
  pool.slots.filter (·.isActive)

/-- Number of workers at work. -/
def activeCount (pool : WorkerPool) : Nat :=
  pool.slots.countP (·.isActive)

/-- The slots that may be handed an item. -/
def eligibleSlots (pool : WorkerPool) : List WorkerSlot :=
  pool.slots.filter (·.isEligible)

/-- The workers at work, highest number first. -/
def activeDescending (pool : WorkerPool) : List WorkerId :=
  pool.activeSlots.reverse.map (·.id)

/-- The numbers of the items at work. -/
def worksInFlight (pool : WorkerPool) : List WorkId :=
  pool.slots.filterMap (·.activeWork?)

/-- Mean load of the workers at work, zero if there are none. -/
def meanActiveLoad (pool : WorkerPool) : Float :=
  let loads := pool.activeSlots.map (·.load.toFloat)
  if loads.isEmpty then 0
  else loads.foldl (· + ·) 0 / Float.ofNat loads.length

/-- The slice of the search space that belongs to a worker: the whole space
unless it is partitioned. The last slice takes the remainder of the division. -/
def rangeFor (pool : WorkerPool) (worker : WorkerId) : SearchRange :=
  if !pool.partitioned || pool.slots.isEmpty then
    ⟨0, pool.searchSpace - 1⟩
  else
    let span := pool.searchSpace / pool.size
    let lo := worker * span
    if worker + 1 = pool.size then ⟨lo, pool.searchSpace - 1⟩
    else ⟨lo, lo + span - 1⟩

/-- Hand an item to a worker that is idle and trusted; any other worker refuses. -/
def assign? (pool : WorkerPool) (worker : WorkerId) (item : WorkItem) (round : Round) :
    Option WorkerPool :=
  if (pool.slot? worker).any (·.isEligible) then
    some (pool.update worker (·.take item (pool.rangeFor worker) round))
  else
    none

/-- Number of workers that were handed an item in the last round. -/
def assignedCount (pool : WorkerPool) : Nat :=
  pool.slots.countP (·.state = .assigned)

/-- Turn the workers that were handed an item in the last round busy. -/
def promote (pool : WorkerPool) : WorkerPool :=
  { pool with slots := pool.slots.map WorkerSlot.promote }

/-- The item in the slot of a worker. -/
def itemOf? (pool : WorkerPool) (worker : WorkerId) : Option WorkItem :=
  (pool.slot? worker).bind (·.item)

/-- Take the item from a worker and put the worker into another state. -/
def release (pool : WorkerPool) (worker : WorkerId) (next : WorkerState) : WorkerPool :=
  pool.update worker (·.vacate next)

/-- The ranges assigned to workers at work. -/
def activeRanges (pool : WorkerPool) : List SearchRange :=
  pool.activeSlots.filterMap (·.range)

/-- Whether no two of the assigned ranges overlap. -/
def rangesApart (pool : WorkerPool) : Bool :=
  SearchRange.allApart pool.activeRanges

/-- Changing a slot leaves the size alone. -/
@[simp]
theorem size_update (pool : WorkerPool) (worker : WorkerId)
    (change : WorkerSlot → WorkerSlot) : (pool.update worker change).size = pool.size := by
  simp [size, update]

/-- Taking up work leaves the size alone. -/
@[simp]
theorem size_promote (pool : WorkerPool) : pool.promote.size = pool.size := by
  simp [size, promote]

/-- Freeing a slot leaves the size alone. -/
@[simp]
theorem size_release (pool : WorkerPool) (worker : WorkerId) (next : WorkerState) :
    (pool.release worker next).size = pool.size :=
  size_update pool worker _

/-- Changing a slot leaves the others alone. -/
theorem slot?_update (pool : WorkerPool) (changed read : WorkerId)
    (change : WorkerSlot → WorkerSlot) :
    (pool.update changed change).slot? read =
      if changed = read then (pool.slot? read).map change else pool.slot? read := by
  by_cases same : changed = read <;> simp [slot?, update, same]

/-- Every slot takes up its work by itself. -/
theorem slot?_promote (pool : WorkerPool) (worker : WorkerId) :
    pool.promote.slot? worker = (pool.slot? worker).map WorkerSlot.promote :=
  List.getElem?_map

end WorkerPool

end PoolArbiter
