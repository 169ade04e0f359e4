import PoolArbiter.Adaptation
import PoolArbiter.Collection
import PoolArbiter.Ledger
import PoolArbiter.Proofs.Quality.Level
import PoolArbiter.Proofs.Search.Slices
import PoolArbiter.Proofs.Selection.Choice
import PoolArbiter.Proofs.Worker.Freeing

/-!
# Arithmetic in machine words

What a round computes with integers is computed here in words, which have 64 bits, or fewer
where a counter is kept in fewer. A computation gives up with `none` if a result does not
fit, a difference is below zero, a divisor is zero or a place is outside the pool. Where it
does not give up, it yields what the round itself yields.

The number of entries of a list is taken as it is: a list that is held in memory has at most
`Word.greatestLength` of them.
-/

namespace PoolArbiter

namespace Word

/-- The length of the longest list that a memory of 64-bit addresses holds. -/
def greatestLength : Nat :=
  0x7FFFFFFFFFFFFFFF

/-- The greatest number of 32 bits. -/
def greatestOf32 : Nat :=
  0xFFFFFFFF

/-- The greatest number of 8 bits. -/
def greatestOf8 : Nat :=
  0xFF

/-- A number, if it is not above a greatest one. -/
def within? (greatest value : Nat) : Option Nat :=
  if value ≤ greatest then some value else none

/-- A remainder, if the divisor is not zero. -/
def remainder? (value divisor : Nat) : Option Nat :=
  if divisor = 0 then none else some (value % divisor)

/-- A value within its bound is kept. -/
theorem within?_eq_some {greatest value : Nat} (fits : value ≤ greatest) :
    within? greatest value = some value :=
  if_pos fits

/-- A positive divisor leaves a remainder. -/
theorem remainder?_eq_some {value divisor : Nat} (positive : 0 < divisor) :
    remainder? value divisor = some (value % divisor) :=
  if_neg (Nat.ne_of_gt positive)

end Word

namespace StarvationGuard

/-- The overdue tier. The rounds that are left are a difference, and they are compared with
a sum. -/
def overdueInWords? (guard : StarvationGuard) (depths : PerTier Nat) : Option (Option Tier) :=
  match guard.starved depths with
  | [] => some none
  | first :: rest => do
      let starved ← Word.fit? (rest.length + 1)
      let left ← Word.minus? guard.window guard.roundInWindow
      let patience ← Word.fit? (starved + guard.slack)
      return if left ≤ patience then some first else none

/-- The guard in the next round. -/
def advanceInWords? (guard : StarvationGuard) : Option StarvationGuard := do
  let place ← Word.fit? (guard.roundInWindow + 1)
  let next := { guard with roundInWindow := place }
  return if guard.window ≤ place then next.restart else next

variable {guard : StarvationGuard}

/-- With a small slack the guard does not overflow. -/
theorem overdueInWords?_eq (inside : guard.roundInWindow ≤ guard.window)
    (slack : guard.slack + 5 ≤ Binary64.greatestWord) (depths : PerTier Nat) :
    guard.overdueInWords? depths = some (guard.overdue? depths) := by
  have few := guard.length_starved_le depths
  unfold overdueInWords? overdue?
  cases starved : guard.starved depths with
  | nil =>
      dsimp only
      split <;> rfl
  | cons first rest =>
      rw [starved, List.length_cons] at few
      have count : Word.fit? (rest.length + 1) = some (rest.length + 1) :=
        Word.fit?_eq_some (by omega)
      have fits : rest.length + 1 + guard.slack ≤ Binary64.greatestWord := by omega
      have patience : guard.patience depths = rest.length + 1 + guard.slack := by
        rw [patience_eq (by rw [starved]; exact fits), starved, List.length_cons]
      simp only [count, Word.minus?_eq_some inside, Word.fit?_eq_some fits, patience,
        Option.bind_eq_bind, Option.bind_some, Option.pure_def]
      rfl

/-- Within its window the guard does not overflow. -/
theorem advanceInWords?_eq (inside : guard.roundInWindow < guard.window)
    (word : guard.window ≤ Binary64.greatestWord) :
    guard.advanceInWords? = some guard.advance := by
  have place : Word.fit? (guard.roundInWindow + 1) = some (guard.roundInWindow + 1) :=
    Word.fit?_eq_some (by omega)
  simp only [advanceInWords?, place, Option.bind_eq_bind, Option.bind_some, Option.pure_def]
  rfl

end StarvationGuard

namespace AdmissionQueues

/-- Put an item back, if the limit of its tier does not leave the words. -/
def requeueInWords? (queues : AdmissionQueues) (item : WorkItem) :
    Option (Option AdmissionQueues) := do
  let limit ← Word.fit? (queues.capacity item.tier + queues.headroom item.tier)
  return if limit ≤ queues.depth item.tier then none
    else some (queues.withItems item.tier (item :: queues.items item.tier))

/-- Go to the next round; a switch of the policy starts a new window. -/
def advanceInWords? (queues : AdmissionQueues) (switched : Bool) : Option AdmissionQueues := do
  let next ← queues.guard.advanceInWords?
  return { queues with guard := if switched then next.restart else next }

/-- The limits of all tiers are words. -/
def Limited (queues : AdmissionQueues) : Prop :=
  ∀ tier, queues.capacity tier + queues.headroom tier ≤ Binary64.greatestWord

variable {queues : AdmissionQueues}

/-- While the limits are words, queueing again does not overflow. -/
theorem Limited.requeueInWords?_eq (limited : queues.Limited) (item : WorkItem) :
    queues.requeueInWords? item = some (queues.requeue? item) := by
  have limit : queues.limit item.tier = queues.capacity item.tier + queues.headroom item.tier :=
    Word.wrap_eq_self (limited item.tier)
  simp only [requeueInWords?, Word.fit?_eq_some (limited item.tier), Option.bind_eq_bind,
    Option.bind_some, Option.pure_def, requeue?, limit]

/-- Within their window the queues do not overflow. -/
theorem advanceInWords?_eq (inside : queues.guard.roundInWindow < queues.guard.window)
    (word : queues.guard.window ≤ Binary64.greatestWord) (switched : Bool) :
    queues.advanceInWords? switched = some (queues.advance switched) := by
  simp only [advanceInWords?, StarvationGuard.advanceInWords?_eq inside word,
    Option.bind_eq_bind, Option.bind_some, Option.pure_def]
  rfl

end AdmissionQueues

namespace WorkerPool

/-- The worker after another one, going round. -/
def afterInWords? (pool : WorkerPool) (worker : WorkerId) : Option WorkerId := do
  let next ← Word.fit? (worker + 1)
  Word.remainder? next pool.size

/-- Hand an item to a worker of the pool; a worker that is not eligible refuses. -/
def assignInWords? (pool : WorkerPool) (worker : WorkerId) (item : WorkItem) (round : Round) :
    Option (Option WorkerPool) := do
  let range ← pool.rangeInWords? worker
  let slot ← pool.slot? worker
  return if slot.isEligible then some (pool.update worker (·.take item range round)) else none

/-- A pool of some workers, whose space falls into slices if it is partitioned. -/
structure Manned (pool : WorkerPool) : Prop where
  manned : 0 < pool.size
  inMemory : pool.size ≤ Word.greatestLength
  word : pool.searchSpace ≤ Binary64.greatestWord
  sliced : pool.partitioned = true → pool.Sliced

variable {pool : WorkerPool} {worker : Nat}

/-- The next worker in turn does not overflow. -/
theorem Manned.afterInWords?_eq (manned : pool.Manned) (inside : worker < pool.size) :
    pool.afterInWords? worker = some ((worker + 1) % pool.size) := by
  have short := manned.inMemory
  have next : Word.fit? (worker + 1) = some (worker + 1) := by
    refine Word.fit?_eq_some ?_
    unfold Word.greatestLength at short
    unfold Binary64.greatestWord
    omega
  simp only [afterInWords?, next, Option.bind_eq_bind, Option.bind_some]
  exact Word.remainder?_eq_some manned.manned

/-- The range of a worker does not overflow. -/
theorem Manned.rangeInWords?_eq_rangeFor (manned : pool.Manned) (inside : worker < pool.size) :
    pool.rangeInWords? worker = some (pool.rangeFor worker) := by
  by_cases partitioned : pool.partitioned = true
  · exact (manned.sliced partitioned).rangeInWords?_eq manned.word inside
  · rw [Bool.not_eq_true] at partitioned
    simp [rangeInWords?, rangeFor, partitioned, Word.fit?_eq_some manned.word]

/-- A pool with the layout of a manned one is manned. -/
theorem Manned.of_layout {next : WorkerPool} (manned : pool.Manned)
    (same : next.layout = pool.layout) : next.Manned := by
  simp only [layout, Layout.mk.injEq] at same
  obtain ⟨size, space, mode⟩ := same
  refine ⟨size ▸ manned.manned, size ▸ manned.inMemory, space ▸ manned.word, fun partitioned => ?_⟩
  have sliced := manned.sliced (mode.symm.trans partitioned)
  exact ⟨partitioned, size ▸ sliced.manned, by rw [size, space]; exact sliced.roomy⟩

/-- Every worker of the pool has a slot. -/
theorem exists_slot? (inside : worker < pool.size) : ∃ slot, pool.slot? worker = some slot :=
  ⟨pool.slots[worker], List.getElem?_eq_getElem inside⟩

/-- Assigning to a worker of the pool does not overflow. -/
theorem Manned.assignInWords?_eq (manned : pool.Manned) {slot : WorkerSlot}
    (found : pool.slot? worker = some slot) (item : WorkItem) (round : Round) :
    pool.assignInWords? worker item round = some (pool.assign? worker item round) := by
  have inside : worker < pool.size := (List.getElem?_eq_some_iff.1 found).1
  simp only [assignInWords?, manned.rangeInWords?_eq_rangeFor inside, found,
    Option.bind_eq_bind, Option.bind_some, Option.pure_def, assign?, Option.any_some]

end WorkerPool

namespace Collector

/-- The workers in the order of service, from the one after the cursor on. -/
def serviceOrderInWords? (cursor : Option WorkerId) (pool : WorkerPool) :
    Option (List WorkerId) := do
  let start ← cursor.elim (some 0) pool.afterInWords?
  return List.range' start (pool.size - start) ++ List.range start

/-- Take in the completions of a round. -/
def pollInWords? (collector : Collector) (completions : List Completion) (pool : WorkerPool)
    (round : Round) : Option Progress :=
  if pool.slots.isEmpty then
    some ⟨collector, pool, {}⟩
  else do
    let order ← serviceOrderInWords? collector.cursor pool
    let served := order.flatMap fun worker =>
      completions.filter fun completion => completion.worker == worker
    let foreign := completions.countP fun completion => pool.size ≤ completion.worker
    return served.foldl (fun progress completion => progress.accept round completion)
      ⟨collector, pool, { stale := foreign }⟩

/-- A poll does not overflow. -/
theorem pollInWords?_eq {collector : Collector} {pool : WorkerPool} (manned : pool.Manned)
    (cursor : ∀ last ∈ collector.cursor, last < pool.size) (completions : List Completion)
    (round : Round) :
    collector.pollInWords? completions pool round =
      some (collector.poll completions pool round) := by
  have order : serviceOrderInWords? collector.cursor pool =
      some (serviceOrder collector.cursor pool.size) := by
    unfold serviceOrderInWords? serviceOrder
    cases served : collector.cursor with
    | none => rfl
    | some last =>
        simp only [Option.elim_some, manned.afterInWords?_eq (cursor last served),
          Option.bind_eq_bind, Option.bind_some, Option.pure_def]
  unfold pollInWords? poll
  split
  · rfl
  · simp only [order, Option.bind_eq_bind, Option.bind_some, Option.pure_def]
    rfl

end Collector

namespace Policy

/-- The first eligible worker at one of some distances from the cursor, going round. -/
def nextInTurnInWords? (pool : WorkerPool) (cursor : WorkerId) :
    List Nat → Option (Option WorkerId)
  | [] => some none
  | distance :: rest => do
      let place ← Word.fit? (cursor + distance)
      let worker ← Word.remainder? place pool.size
      if (pool.slot? worker).any (·.isEligible) then return some worker
      else nextInTurnInWords? pool cursor rest

/-- The worker that a policy chooses. -/
def workerInWords? (policy : Policy) (pool : WorkerPool) : Option (Option WorkerId) :=
  match policy with
  | .roundRobin cursor => nextInTurnInWords? pool cursor (List.range pool.size)
  | other => some (other.worker? pool)

/-- The policy after it chose a worker. -/
def afterChoosingInWords? (policy : Policy) (pool : WorkerPool) (worker : WorkerId) :
    Option Policy :=
  match policy with
  | .roundRobin _ => (pool.afterInWords? worker).map .roundRobin
  | other => some other

/-- The item that a policy takes from the queues: that of the overdue tier, else the oldest
one or that of the first tier that waits. -/
def itemInWords? (policy : Policy) (queues : AdmissionQueues) :
    Option (Option (WorkItem × AdmissionQueues)) := do
  let overdue ← queues.guard.overdueInWords? queues.depths
  let otherwise := match policy with
    | .loadBalanced => queues.oldestTier?
    | _ => StarvationGuard.firstWaiting? queues.depths
  return (overdue.or otherwise).bind queues.popFrom?

/-- Choose a worker and take an item for it. -/
def selectInWords? (policy : Policy) (queues : AdmissionQueues) (pool : WorkerPool)
    (cap : Nat) : Option (Option Selection) := do
  let depth ← Word.fit? queues.totalDepth
  if cap ≤ pool.activeCount || depth == 0 then
    return none
  match ← policy.workerInWords? pool with
  | none => return none
  | some worker =>
      let next ← policy.afterChoosingInWords? pool worker
      let taken ← policy.itemInWords? queues
      return taken.map fun (item, rest) => ⟨item, worker, next, rest⟩

/-- A cursor stands at a worker of the pool. -/
def Within (size : Nat) : Policy → Prop
  | .roundRobin cursor => cursor < size
  | _ => True

variable {policy : Policy} {pool : WorkerPool} {queues : AdmissionQueues}

/-- The search for the next worker in turn does not overflow. -/
theorem nextInTurnInWords?_eq (manned : pool.Manned) {cursor : Nat}
    (inside : cursor < pool.size) (distances : List Nat)
    (near : ∀ distance ∈ distances, distance < pool.size) :
    nextInTurnInWords? pool cursor distances =
      some ((distances.map fun distance => (cursor + distance) % pool.size).find?
        fun worker => (pool.slot? worker).any (·.isEligible)) := by
  induction distances with
  | nil => rfl
  | cons distance rest inductionHypothesis =>
      have short := manned.inMemory
      have first := near distance List.mem_cons_self
      have place : Word.fit? (cursor + distance) = some (cursor + distance) := by
        refine Word.fit?_eq_some ?_
        unfold Word.greatestLength at short
        unfold Binary64.greatestWord
        omega
      have later := inductionHypothesis fun other member =>
        near other (List.mem_cons_of_mem _ member)
      simp only [nextInTurnInWords?, place, Word.remainder?_eq_some manned.manned, later,
        Option.bind_eq_bind, Option.bind_some, List.map_cons, List.find?_cons, Option.pure_def]
      split
      next eligible => rw [eligible]
      next busy =>
        rw [Bool.not_eq_true] at busy
        rw [busy]

/-- The choice of a worker does not overflow. -/
theorem Within.workerInWords?_eq (within : policy.Within pool.size) (manned : pool.Manned) :
    policy.workerInWords? pool = some (policy.worker? pool) := by
  cases policy with
  | roundRobin cursor =>
      exact nextInTurnInWords?_eq manned within _ fun _ member => List.mem_range.1 member
  | loadBalanced => rfl
  | priorityBased => rfl
  | performanceAware => rfl

/-- Moving the cursor does not overflow. -/
theorem afterChoosingInWords?_eq (policy : Policy) (manned : pool.Manned) {worker : WorkerId}
    (inside : worker < pool.size) :
    policy.afterChoosingInWords? pool worker = some (policy.afterChoosing pool worker) := by
  cases policy with
  | roundRobin cursor =>
      simp only [afterChoosingInWords?, manned.afterInWords?_eq inside, Option.map_some]
      rfl
  | loadBalanced => rfl
  | priorityBased => rfl
  | performanceAware => rfl

/-- The choice of an item does not overflow. -/
theorem itemInWords?_eq (policy : Policy)
    (inside : queues.guard.roundInWindow ≤ queues.guard.window)
    (slack : queues.guard.slack + 5 ≤ Binary64.greatestWord) :
    policy.itemInWords? queues = some (policy.item? queues) := by
  simp only [itemInWords?, StarvationGuard.overdueInWords?_eq inside slack,
    Option.bind_eq_bind, Option.bind_some, Option.pure_def]
  cases policy <;> rfl

/-- A selection does not overflow. -/
theorem Within.selectInWords?_eq (within : policy.Within pool.size) (manned : pool.Manned)
    (sound : pool.Sound) (few : queues.totalDepth ≤ Binary64.greatestWord)
    (inside : queues.guard.roundInWindow ≤ queues.guard.window)
    (slack : queues.guard.slack + 5 ≤ Binary64.greatestWord) (cap : Nat) :
    policy.selectInWords? queues pool cap = some (policy.select? queues pool cap) := by
  unfold selectInWords? select? AdmissionQueues.isEmpty
  simp only [Word.fit?_eq_some few, within.workerInWords?_eq manned, itemInWords?_eq policy inside
    slack, Option.bind_eq_bind, Option.bind_some, Option.pure_def]
  split
  · rfl
  · cases chosen : policy.worker? pool with
    | none => rfl
    | some worker =>
        obtain ⟨slot, found, _⟩ := eligible_of_worker? sound.numbered chosen
        have numbered : worker < pool.size := (List.getElem?_eq_some_iff.1 found).1
        simp only [afterChoosingInWords?_eq policy manned numbered, Option.bind_some]
        cases policy.item? queues <;> rfl

/-- The cursor stays within the pool. -/
theorem Within.afterChoosing (policy : Policy) {worker : WorkerId} (manned : 0 < pool.size) :
    (policy.afterChoosing pool worker).Within pool.size := by
  cases policy with
  | roundRobin cursor => exact Nat.mod_lt _ manned
  | loadBalanced => trivial
  | priorityBased => trivial
  | performanceAware => trivial

end Policy

namespace Adaptation

/-- Add a sample to the current window. -/
def sampleInWords? (adaptation : Adaptation) (utilization : Float) : Option Adaptation := do
  let count ← Word.fit? (adaptation.sampleCount + 1)
  let place ← Word.fit? (adaptation.roundsInWindow + 1)
  return { adaptation with
    sampleSum := adaptation.sampleSum + utilization
    sampleCount := count
    roundsInWindow := place }

/-- Take the sample of a round. -/
def onRoundInWords? (adaptation : Adaptation) (utilization : Float) (current : Policy)
    (modes : Modes) : Option (Adaptation × Option Policy) := do
  let sampled ← adaptation.sampleInWords? utilization
  let kind := sampled.choose sampled.mean modes
  return if sampled.roundsInWindow < sampled.window then (sampled, none)
    else (sampled.closeWindow,
      if kind = current.kind then none else some (sampled.policyOf kind))

/-- The adaptation does not overflow while its counts are words. -/
theorem onRoundInWords?_eq {adaptation : Adaptation}
    (count : adaptation.sampleCount + 1 ≤ Binary64.greatestWord)
    (place : adaptation.roundsInWindow + 1 ≤ Binary64.greatestWord) (utilization : Float)
    (current : Policy) (modes : Modes) :
    adaptation.onRoundInWords? utilization current modes =
      some (adaptation.onRound utilization current modes) := by
  have sampled : adaptation.sampleInWords? utilization = some (adaptation.sample utilization) := by
    simp only [sampleInWords?, Word.fit?_eq_some count, Word.fit?_eq_some place,
      Option.bind_eq_bind, Option.bind_some, Option.pure_def]
    rfl
  simp only [onRoundInWords?, sampled, Option.bind_eq_bind, Option.bind_some, Option.pure_def]
  rfl

end Adaptation

namespace QualityTracker

/-- The rounds over the limit in a row, which are kept in 32 bits. -/
def countStreakInWords? (tracker : QualityTracker) (backlog : Nat) : Option (Nat × Bool) :=
  if tracker.slaBacklog < backlog then do
    let streak ← Word.within? Word.greatestOf32 (tracker.streak + 1)
    return if tracker.slaWindow ≤ streak then (0, true) else (streak, false)
  else
    some (0, false)

/-- The level that a round calls for; levels are kept in 8 bits. -/
def targetInWords? (level : Nat) (loadFactor : Float) (violated emergency : Bool) : Option Nat :=
  if emergency then some greatestLevel
  else if violated then do
    let next ← Word.within? Word.greatestOf8 (level + 1)
    return min next greatestLevel
  else some (band loadFactor)

/-- One step from a level towards another. -/
def stepInWords? (level goal : Nat) : Option Nat :=
  if level < goal then Word.within? Word.greatestOf8 (level + 1)
  else if goal < level then Word.minus? level 1
  else some level

/-- Observe a round. -/
def observeInWords? (tracker : QualityTracker) (backlog active total : Nat) (emergency : Bool) :
    Option QualityTracker := do
  let load := tracker.loadFactor backlog active total
  let (streak, violated) ← tracker.countStreakInWords? backlog
  let current := tracker.state.level
  let goal ← targetInWords? current load violated emergency
  let level ← stepInWords? current goal
  let violations ← Word.fit? (tracker.state.violations + if violated then 1 else 0)
  let escalations ← Word.fit? (tracker.state.escalations + if current < goal then 1 else 0)
  return { tracker with
    streak := streak
    state :=
      { level := level, violations := violations, escalations := escalations
        loadFactor := load } }

/-- The counters of a tracker that has seen some rounds. -/
structure Bounded (rounds : Nat) (tracker : QualityTracker) : Prop where
  level : tracker.state.level ≤ greatestLevel
  streak : tracker.streak < tracker.slaWindow
  window : tracker.slaWindow ≤ Word.greatestOf32
  violations : tracker.state.violations ≤ rounds
  escalations : tracker.state.escalations ≤ rounds

variable {tracker : QualityTracker} {rounds : Nat}

/-- A fresh tracker has counted nothing. -/
theorem bounded_fresh (settings : QualitySettings) (queueCapacity : Nat)
    (short : settings.slaWindowRounds ≤ Word.greatestOf32) :
    (fresh settings queueCapacity).Bounded 0 where
  level := Nat.zero_le _
  streak := Nat.lt_of_lt_of_le Nat.zero_lt_one (Nat.le_max_left 1 _)
  window := Nat.max_le.2 ⟨by decide, short⟩
  violations := Nat.le_refl 0
  escalations := Nat.le_refl 0

/-- Counting the streak does not overflow. -/
theorem Bounded.countStreakInWords?_eq (bounded : tracker.Bounded rounds) (backlog : Nat) :
    tracker.countStreakInWords? backlog = some (tracker.countStreak backlog) := by
  have streak : Word.within? Word.greatestOf32 (tracker.streak + 1) = some (tracker.streak + 1) :=
    Word.within?_eq_some (Nat.le_trans bounded.streak bounded.window)
  unfold countStreakInWords? countStreak
  split
  · simp only [streak, Option.bind_eq_bind, Option.bind_some, Option.pure_def]
  · rfl

/-- The target of a level does not overflow. -/
theorem targetInWords?_eq {level : Nat} (low : level ≤ greatestLevel) (loadFactor : Float)
    (violated emergency : Bool) :
    targetInWords? level loadFactor violated emergency =
      some (target level loadFactor violated emergency) := by
  have next : Word.within? Word.greatestOf8 (level + 1) = some (level + 1) :=
    Word.within?_eq_some (Nat.le_trans (Nat.succ_le_succ low) (by decide))
  unfold targetInWords? target
  simp only [next, Option.bind_eq_bind, Option.bind_some, Option.pure_def]
  split
  · rfl
  · split <;> rfl

/-- A step of the level does not overflow. -/
theorem stepInWords?_eq {level : Nat} (low : level ≤ greatestLevel) (goal : Nat) :
    stepInWords? level goal =
      some (if level < goal then level + 1 else if goal < level then level - 1 else level) := by
  unfold stepInWords?
  split
  · exact Word.within?_eq_some (Nat.le_trans (Nat.succ_le_succ low) (by decide))
  · split
    next higher => exact Word.minus?_eq_some (Nat.zero_lt_of_lt higher)
    next => rfl

/-- An observation does not overflow while the rounds are words. -/
theorem Bounded.observeInWords?_eq (bounded : tracker.Bounded rounds)
    (few : rounds + 1 ≤ Binary64.greatestWord) (backlog active total : Nat) (emergency : Bool) :
    tracker.observeInWords? backlog active total emergency =
      some (tracker.observe backlog active total emergency) := by
  have counted : ∀ (count : Nat) (more : Bool), count ≤ rounds →
      Word.fit? (count + if more then 1 else 0) = some (count + if more then 1 else 0) := by
    intro count more atMost
    refine Word.fit?_eq_some (Nat.le_trans ?_ few)
    cases more
    · exact Nat.le_succ_of_le atMost
    · exact Nat.succ_le_succ atMost
  have violations := counted _ (tracker.countStreak backlog).2 bounded.violations
  have escalations := counted _ (decide (tracker.state.level <
    target tracker.state.level (tracker.loadFactor backlog active total)
      (tracker.countStreak backlog).2 emergency)) bounded.escalations
  simp only [decide_eq_true_eq] at escalations
  simp only [observeInWords?, bounded.countStreakInWords?_eq, targetInWords?_eq bounded.level,
    stepInWords?_eq bounded.level, violations, escalations, Option.bind_eq_bind,
    Option.bind_some, Option.pure_def]
  rfl

/-- A round counts at most one violation and one step up. -/
theorem Bounded.observe (bounded : tracker.Bounded rounds) (backlog active total : Nat)
    (emergency : Bool) :
    (tracker.observe backlog active total emergency).Bounded (rounds + 1) := by
  have low := bounded.level
  have goal := target_le tracker.state.level (tracker.loadFactor backlog active total)
    (tracker.countStreak backlog).2 emergency
  have streak := bounded.streak
  have violations := bounded.violations
  have escalations := bounded.escalations
  constructor
  · simp only [QualityTracker.observe]
    split
    · omega
    · split <;> omega
  · simp only [QualityTracker.observe, countStreak]
    split
    · split <;> dsimp only <;> omega
    · dsimp only
      omega
  · exact bounded.window
  · simp only [QualityTracker.observe]
    split <;> omega
  · simp only [QualityTracker.observe]
    split <;> omega

end QualityTracker

namespace Ledger

/-- Count a result. -/
def recordResultInWords? (ledger : Ledger) (result : WorkResult) : Option Ledger := do
  let found ← Word.fit? (ledger.found + if result.outcome.isFound then 1 else 0)
  let exhausted ← Word.fit? (ledger.exhausted + if result.outcome.isFound then 0 else 1)
  let count ← Word.fit? (ledger.completed.get result.tier + 1)
  let rounds := Float.ofNat (result.completionRound - result.submittedRound)
  return { ledger with
    found := found
    exhausted := exhausted
    completed := ledger.completed.set result.tier count
    turnaround :=
      ledger.turnaround.modify result.tier fun previous => runningMean previous rounds count }

/-- Count a drop. -/
def recordDropInWords? (ledger : Ledger) (drop : DropRecord) : Option Ledger := do
  let _ ← Word.fit? (ledger.drops.get drop.reason + 1)
  return ledger.recordDrop drop

/-- Count several results. -/
def recordResultsInWords? (ledger : Ledger) (results : List WorkResult) : Option Ledger :=
  results.foldlM recordResultInWords? ledger

/-- Count several drops. -/
def recordDropsInWords? (ledger : Ledger) (drops : List DropRecord) : Option Ledger :=
  drops.foldlM recordDropInWords? ledger

end Ledger

end PoolArbiter
