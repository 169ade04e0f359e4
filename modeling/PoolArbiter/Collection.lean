import PoolArbiter.Binary64
import PoolArbiter.Data.Recent
import PoolArbiter.Feed
import PoolArbiter.Worker.Pool

/-!
# Collection of results

Completions become results and free their workers. Workers are served in turn,
starting after the one that was served last. A completion counts only if it
names the item that its worker holds; a hit counts only if no failed verdict on
the item is pending. A failed verdict that comes after the hit was published is
charged to the worker that published it.
-/

namespace PoolArbiter

/-- The collector between two rounds. -/
structure Collector where
  /-- The worker that was served last. -/
  cursor : Option WorkerId
  /-- Weight of the newest completion time in a worker's mean. -/
  smoothing : Binary64
  /-- Verdicts on items at work. -/
  verdicts : KeyMap WorkId Bool
  /-- The hits published last, each with its worker. -/
  recentHits : Recent (WorkId × WorkerId)

/-- What a poll yields. -/
structure Collected where
  results : List WorkResult := []
  /-- Workers whose hit failed its verdict. -/
  untrusted : List WorkerId := []
  /-- Number of completions that did not count. -/
  stale : Nat := 0

namespace Collector

/-- Number of published hits that a late verdict can still be charged to. -/
def recentHitCapacity : Nat :=
  64

/-- A collector before the first round. -/
def fresh (settings : CollectorSettings) : Collector where
  cursor := none
  smoothing := Binary64.clamp 0 1 settings.emaAlpha
  verdicts := .empty
  recentHits := .ofCapacity recentHitCapacity

/-- Take in one verdict. On an item at work it is kept until the item completes.
A failed verdict on a published hit is charged to its worker, once. Any other
verdict is ignored. -/
def recordVerdict (inFlight : List WorkId) (state : Collector × List WorkerId)
    (verdict : WorkId × Bool) : Collector × List WorkerId :=
  let (collector, late) := state
  if inFlight.contains verdict.1 then
    ({ collector with verdicts := collector.verdicts.insert verdict.1 verdict.2 }, late)
  else
    match collector.recentHits.items.lookup verdict.1, verdict.2 with
    | some worker, false =>
        ({ collector with
            recentHits := collector.recentHits.retain fun hit => hit.1 != verdict.1 },
          late ++ [worker])
    | _, _ => (collector, late)

/-- Take in verdicts. The list names a worker for each failure charged late. -/
def recordVerdicts (collector : Collector) (verdicts : KeyMap WorkId Bool)
    (pool : WorkerPool) : Collector × List WorkerId :=
  verdicts.entries.foldl (recordVerdict pool.worksInFlight) (collector, [])

/-- Forget the verdict on an item. -/
def forget (collector : Collector) (work : WorkId) : Collector :=
  { collector with verdicts := collector.verdicts.erase work }

/-- Forget the verdicts on items that are not at work. -/
def retainInFlight (collector : Collector) (pool : WorkerPool) : Collector :=
  let inFlight := pool.worksInFlight
  { collector with verdicts := collector.verdicts.filter fun work _ => inFlight.contains work }

/-- The mean completion time of a worker after one more completion. -/
def smoothed (smoothing latency elapsed : Binary64) : Binary64 :=
  if latency.toFloat == 0 then elapsed
  else smoothing * elapsed + (.ofFloat 1 - smoothing) * latency

/-- The item of a worker at work, if a completion names it. -/
def heldItem? (pool : WorkerPool) (completion : Completion) : Option (WorkerSlot × WorkItem) := do
  let slot ← pool.slot? completion.worker
  let item ← slot.item
  if slot.isActive && item.id == completion.work then some (slot, item) else none

/-- The outcome that is published: a hit with a failed verdict counts as
exhausted. -/
def judged (verdict : Option Bool) (outcome : Outcome) : Outcome :=
  if outcome.isFound && verdict == some false then .exhausted else outcome

/-- The collector, the pool and the yield during a poll. -/
structure Progress where
  collector : Collector
  pool : WorkerPool
  yield : Collected

/-- Take in one completion. -/
def Progress.accept (progress : Progress) (round : Round) (completion : Completion) :
    Progress :=
  match heldItem? progress.pool completion with
  | none =>
      { progress with yield := { progress.yield with stale := progress.yield.stale + 1 } }
  | some (slot, item) =>
      let collector := progress.collector
      let outcome := judged (collector.verdicts.find? item.id) completion.outcome
      let rejected := outcome != completion.outcome
      { collector :=
          { collector with
            cursor := some completion.worker
            verdicts := collector.verdicts.erase item.id
            recentHits :=
              if outcome.isFound then collector.recentHits.push (item.id, completion.worker)
              else collector.recentHits }
        pool := progress.pool.update completion.worker fun held =>
          { held.vacate .idle with
            load := Binary64.clamp 0 100 completion.load
            latency :=
              smoothed collector.smoothing held.latency
                (.ofFloat (Float.ofNat (slot.elapsed round))) }
        yield :=
          { progress.yield with
            results :=
              progress.yield.results ++ [item.result completion.worker outcome round]
            untrusted :=
              progress.yield.untrusted ++ if rejected then [completion.worker] else [] } }

/-- The workers in the order of service: from the one after the cursor to the
last, then from the first on. -/
def serviceOrder (cursor : Option WorkerId) (size : Nat) : List WorkerId :=
  let start := cursor.elim 0 fun last => (last + 1) % size
  List.range' start (size - start) ++ List.range start

/-- Completions in the order of service of their workers; those of one worker
stay in the order of arrival. -/
def inServiceOrder (cursor : Option WorkerId) (size : Nat) (completions : List Completion) :
    List Completion :=
  (serviceOrder cursor size).flatMap fun worker =>
    completions.filter fun completion => completion.worker == worker

/-- Take in the completions of a round. Those of workers that do not exist do not
count. An empty pool takes in nothing. -/
def poll (collector : Collector) (completions : List Completion) (pool : WorkerPool)
    (round : Round) : Progress :=
  if pool.slots.isEmpty then
    ⟨collector, pool, {}⟩
  else
    let foreign := completions.countP fun completion => pool.size ≤ completion.worker
    (inServiceOrder collector.cursor pool.size completions).foldl
      (fun progress completion => progress.accept round completion)
      ⟨collector, pool, { stale := foreign }⟩

end Collector

end PoolArbiter
