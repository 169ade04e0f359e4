import PoolArbiter.Proofs.Admission.Room
import PoolArbiter.Proofs.Custody.Ledger

/-!
# Headroom for items that are taken back

A new item is admitted below the capacity of its tier, and a worker holds one item. So the
live items of a tier are never more than its capacity and the number of workers; items move
between the queues and the workers, but none is added. If the headroom covers the workers,
and capacity and headroom add up to a word, an item that is taken back finds room whatever
else is on its way at that moment: `Turn.Stores` carries this through the phases of a round.
-/

namespace PoolArbiter

section Counting

/-- Number of workers at work on an item of a tier. -/
def WorkerPool.activeInTier (pool : WorkerPool) (tier : Tier) : Nat :=
  pool.slots.countP fun slot => slot.isActive && slot.item.any (·.tier = tier)

/-- There are no more workers at work in a tier than workers. -/
theorem WorkerPool.activeInTier_le (pool : WorkerPool) (tier : Tier) :
    pool.activeInTier tier ≤ pool.size :=
  List.countP_le_length

/-- In a sound pool the items that are held of a tier are those of the workers at work in it. -/
theorem WorkerPool.Sound.countP_held {pool : WorkerPool} (sound : pool.Sound) (tier : Tier) :
    pool.held.countP (·.tier = tier) = pool.activeInTier tier := by
  rw [WorkerPool.held, WorkerPool.gather, Multiset.coe_countP, List.countP_filterMap,
    WorkerPool.activeInTier]
  apply List.countP_congr
  intro slot member
  have matched := (sound.slot member).item
  cases holds : slot.item <;> simp [← matched, holds]

/-- The live items of a tier are queued in it or at work. -/
theorem Controller.Sound.countP_live {controller : Controller} (sound : controller.Sound)
    (tier : Tier) :
    controller.live.countP (·.tier = tier) =
      controller.queues.depth tier + controller.pool.activeInTier tier := by
  rw [Controller.live, Multiset.countP_add, sound.queues.countP_contents, sound.pool.countP_held]

end Counting

namespace Turn

/-- The items are no more than the limits of their tiers. -/
def Covered (settings : QueueSettings) (items : Multiset WorkItem) : Prop :=
  ∀ tier, items.countP (·.tier = tier) ≤ settings.limitFor tier

/-- No item was dropped for lack of room. -/
def Lossless (turn : Turn) : Prop :=
  ∀ drop ∈ turn.log.drops, drop.reason ≠ .queueFull

/-- A turn that accounts for some items keeps its queues in bounds, and it loses none of
the items if the limits cover them. -/
structure Stores (settings : QueueSettings) (items transit : Multiset WorkItem) (turn : Turn) :
    Prop where
  keeps : turn.Keeps items transit
  fits : turn.controller.queues.Fits settings
  lossless : Covered settings items → turn.Lossless

variable {settings : QueueSettings} {turn final : Turn} {items transit : Multiset WorkItem}
  {item : WorkItem} {worker : WorkerId}

/-- An item on its way finds room: the items that are queued do not fill the tier without
it. -/
theorem Stores.requeue?_ne_none (stores : turn.Stores settings items (item ::ₘ transit))
    (covered : Covered settings items) : turn.controller.queues.requeue? item ≠ none := by
  have bounded := covered item.tier
  have kept := stores.keeps.accounted.countP_le item.tier
  rw [Multiset.cons_add,
    Multiset.countP_cons_of_pos (p := fun other : WorkItem => other.tier = item.tier) _ rfl,
    Multiset.countP_add, Multiset.countP_add, stores.keeps.sorted.countP_contents] at kept
  rw [Ne, AdmissionQueues.requeue?_eq_none_iff, stores.fits.limit_eq]
  omega

/-- An item in transit finds room, or is dropped for the lack of it. -/
theorem Stores.requeueOrDrop (stores : turn.Stores settings items (item ::ₘ transit)) :
    (turn.requeueOrDrop item).Stores settings items transit := by
  refine ⟨stores.keeps.requeueOrDrop, ?_, fun covered => ?_⟩
  · unfold Turn.requeueOrDrop
    dsimp only
    split
    next accepted => exact stores.fits.requeue? accepted
    next => exact stores.fits
  · unfold Turn.requeueOrDrop
    dsimp only
    split
    next => exact stores.lossless covered
    next full => exact absurd full (stores.requeue?_ne_none covered)

/-- Several items in transit find room one after the other. -/
theorem Stores.requeueAll {reclaimed : List WorkItem}
    (stores : turn.Stores settings items (reclaimed + transit)) :
    (reclaimed.foldl Turn.requeueOrDrop turn).Stores settings items transit := by
  induction reclaimed generalizing turn with
  | nil => simpa using stores
  | cons item _ inductionHypothesis =>
      rw [List.foldl_cons]
      apply inductionHypothesis
      apply Stores.requeueOrDrop
      rwa [← Multiset.cons_add, Multiset.cons_coe]

/-- Publishing leaves the queues alone. -/
theorem queues_publish (turn : Turn) (result : WorkResult) :
    (turn.publish result).controller.queues = turn.controller.queues :=
  rfl

/-- Publishing drops nothing. -/
theorem drops_publish (turn : Turn) (result : WorkResult) :
    (turn.publish result).log.drops = turn.log.drops :=
  rfl

/-- Collecting makes room. -/
theorem Stores.collect (stores : turn.Stores settings items 0) (snapshot : Snapshot) :
    (turn.collect snapshot).Stores settings items 0 where
  keeps := stores.keeps.collect snapshot
  fits := by
    have same : (turn.collect snapshot).controller.queues = turn.controller.queues :=
      view_foldl (·.controller.queues) queues_publish _ _
    exact same ▸ stores.fits
  lossless := by
    have same : (turn.collect snapshot).log.drops = turn.log.drops :=
      view_foldl (·.log.drops) drops_publish _ _
    unfold Lossless
    rw [same]
    exact stores.lossless

/-- A fault keeps queues and workers within their room. -/
theorem Stores.reclaimFault (stores : turn.Stores settings items transit)
    (trusts : turn.controller.pool.Trusts worker) :
    (turn.reclaimFault worker).Stores settings items transit := by
  have released := Custody.release stores.keeps trusts
  unfold Turn.reclaimFault
  dsimp only
  split
  next free =>
    rw [free] at released
    exact ⟨released, stores.fits, stores.lossless⟩
  next item holds =>
    rw [holds] at released
    split
    · refine ⟨Keeps.recordDrop released .retriesExhausted, stores.fits, fun covered => ?_⟩
      intro drop member
      rcases List.mem_append.1 member with old | new
      · exact stores.lossless covered drop old
      · rw [List.mem_singleton.1 new]
        exact DropReason.noConfusion
    · exact Stores.requeueOrDrop ⟨released, stores.fits, stores.lossless⟩

/-- Taking back late items keeps queues and workers within their room. -/
theorem Stores.detectFaults (stores : turn.Stores settings items 0) :
    turn.detectFaults.Stores settings items 0 :=
  WorkerPool.foldl_release (fun turn : Turn => turn.controller.pool)
    (motive := fun turn => turn.Stores settings items 0) Stores.reclaimFault pool_reclaimFault
    stores (trusts_of_mem_overdue stores.keeps.sound)

/-- Exclusions keep queues and workers within their room. -/
theorem Stores.applyHealth (stores : turn.Stores settings items 0) (snapshot : Snapshot) :
    (turn.applyHealth snapshot).Stores settings items 0 := by
  refine Stores.requeueAll ⟨?_, stores.fits, stores.lossless⟩
  rw [add_zero]
  exact custody_applyReports stores.keeps turn.controller.gate snapshot.health

/-- Idling a worker keeps queues and workers within their room. -/
theorem Stores.preempt (stores : turn.Stores settings items transit)
    (trusts : turn.controller.pool.Trusts worker) :
    (turn.preempt worker).Stores settings items transit := by
  have released := Custody.release stores.keeps trusts
  unfold Turn.preempt
  dsimp only
  split
  next free =>
    rw [free] at released
    exact ⟨released, stores.fits, stores.lossless⟩
  next item holds =>
    rw [holds] at released
    split
    · exact ⟨Keeps.publish released (Record.closes_result item worker .exhausted _), stores.fits,
        stores.lossless⟩
    · exact Stores.requeueOrDrop ⟨released, stores.fits, stores.lossless⟩

/-- Enforcing the cap keeps queues and workers within their room. -/
theorem Stores.enforceCap (stores : turn.Stores settings items 0) (snapshot : Snapshot) :
    (turn.enforceCap snapshot).Stores settings items 0 := by
  let governor :=
    turn.controller.governor.recompute turn.controller.pool.activeCount snapshot.sensor
  have shed : ((governor.excess turn.controller.pool).foldl Turn.preempt
      { turn with controller := { turn.controller with governor := governor } }).Stores
        settings items 0 :=
    WorkerPool.foldl_release (fun turn : Turn => turn.controller.pool)
      (motive := fun turn => turn.Stores settings items 0) Stores.preempt pool_preempt
      ⟨stores.keeps, stores.fits, stores.lossless⟩ (trusts_of_mem_excess stores.keeps.sound _)
  exact ⟨shed.keeps, shed.fits, shed.lossless⟩

/-- The adaptation keeps queues and workers within their room. -/
theorem Stores.adapt (stores : turn.Stores settings items transit) :
    turn.adapt.Stores settings items transit := by
  have same : turn.adapt.controller.queues = turn.controller.queues ∧
      turn.adapt.log.drops = turn.log.drops := by
    unfold Turn.adapt
    dsimp only
    split <;> exact ⟨rfl, rfl⟩
  refine ⟨stores.keeps.adapt, same.1 ▸ stores.fits, ?_⟩
  unfold Lossless
  rw [same.2]
  exact stores.lossless

/-- Assignments keep queues and workers within their room. -/
theorem Stores.assigns (stores : turn.Stores settings items transit)
    (assigns : Assigns turn final) : final.Stores settings items transit := by
  induction assigns with
  | done => exact stores
  | handOver selected _ inductionHypothesis =>
      obtain ⟨_, _, ⟨tier, _, popped⟩, _⟩ := Policy.select?_eq_some selected
      exact inductionHypothesis
        ⟨stores.keeps.handOver selected, stores.fits.popFrom? popped, stores.lossless⟩

end Turn

namespace Controller

variable {config : Configuration} {controller : Controller}

/-- The queues and the workers of a controller, within what is configured. -/
structure HasRoom (config : Configuration) (controller : Controller) : Prop where
  capacity : ∀ tier, controller.queues.capacity tier = config.queues.capacityFor tier
  headroom : ∀ tier, controller.queues.headroom tier = config.queues.reclaimHeadroom
  /-- What is queued or at work is no more than capacity and workers. -/
  inTier : ∀ tier, controller.queues.depth tier + controller.pool.activeInTier tier ≤
    controller.queues.capacity tier + config.pool.workers
  queued : ∀ tier, controller.queues.depth tier ≤
    controller.queues.capacity tier + controller.queues.headroom tier

/-- Queues with room fit their settings. -/
theorem HasRoom.fits (hasRoom : controller.HasRoom config) :
    controller.queues.Fits config.queues :=
  ⟨hasRoom.capacity, hasRoom.headroom, hasRoom.queued⟩

/-- If the headroom covers the workers, every live item finds room. -/
theorem HasRoom.covered (hasRoom : controller.HasRoom config) (sound : controller.Sound)
    (limited : config.queues.Limited)
    (ample : config.pool.workers ≤ config.queues.reclaimHeadroom) :
    Turn.Covered config.queues controller.live := by
  intro tier
  have bounded := hasRoom.inTier tier
  rw [sound.countP_live, limited.limitFor_eq, ← hasRoom.capacity]
  omega

/-- An operation that brings no item into a tier keeps the tier in bounds. -/
theorem HasRoom.preserved (hasRoom : controller.HasRoom config) (sound : controller.Sound)
    {next : Controller} (soundNext : next.Sound) (fits : next.queues.Fits config.queues)
    (bounded : ∀ tier, next.live.countP (·.tier = tier) ≤ controller.live.countP (·.tier = tier) ∨
      next.live.countP (·.tier = tier) ≤ config.queues.capacityFor tier + config.pool.workers) :
    next.HasRoom config := by
  refine ⟨fits.capacity, fits.headroom, fun tier => ?_, fits.depth⟩
  rw [← soundNext.countP_live, fits.capacity]
  rcases bounded tier with fewer | within
  · have before := hasRoom.inTier tier
    rw [← sound.countP_live, hasRoom.capacity] at before
    exact fewer.trans before
  · exact within

/-- Up to its end a round keeps queues and workers within their room. -/
theorem Sound.stores_runRound (sound : controller.Sound) (hasRoom : controller.HasRoom config) :
    controller.selecting.assignAll.Stores config.queues controller.live 0 := by
  have begun : controller.beginRound.Stores config.queues controller.live 0 :=
    ⟨sound.beginRound, hasRoom.fits, fun _ _ member => by cases member⟩
  have settled : controller.settled.Stores config.queues controller.live 0 :=
    ⟨begun.keeps, begun.fits, begun.lossless⟩
  have selecting : controller.selecting.Stores config.queues controller.live 0 :=
    (((settled.collect _).detectFaults.applyHealth _).enforceCap _).adapt
  exact selecting.assigns (Turn.assignAll_assigns selecting.keeps.sound)

/-- A round leaves queues that fit their settings. -/
theorem Sound.fits_runRound (sound : controller.Sound) (hasRoom : controller.HasRoom config) :
    controller.runRound.1.queues.Fits config.queues := by
  rw [runRound_eq, Turn.queues_report]
  exact (sound.stores_runRound hasRoom).fits.withGuard _

/-- If the headroom covers the workers, a round loses no item for lack of room. -/
theorem Sound.lossless_runRound (sound : controller.Sound) (hasRoom : controller.HasRoom config)
    (limited : config.queues.Limited)
    (ample : config.pool.workers ≤ config.queues.reclaimHeadroom) :
    ∀ drop ∈ controller.runRound.2.log.drops, drop.reason ≠ .queueFull := by
  rw [runRound_eq, Turn.log_report]
  exact (sound.stores_runRound hasRoom).lossless (hasRoom.covered sound limited ample)

/-- Only an accepted submission admits an item, and only below the capacity. -/
theorem depth_lt_of_admitted? {operation : Operation} {item : WorkItem}
    (admitted : (controller.stepOf operation).admitted? = some item) :
    controller.queues.depth item.tier < controller.queues.capacity item.tier := by
  cases operation with
  | submit payload tier =>
      unfold stepOf perform submit at admitted
      dsimp only at admitted
      split at admitted
      · cases admitted
      · split at admitted
        next accepted =>
          obtain rfl := Option.some.inj admitted
          exact AdmissionQueues.depth_lt_of_enqueue accepted
        next => cases admitted
  | _ => cases admitted

/-- Between rounds every operation leaves queues that fit their settings. -/
theorem fits_perform (operation : Operation) (between : operation ≠ .round)
    {settings : QueueSettings} (fits : controller.queues.Fits settings) :
    (controller.perform operation).1.queues.Fits settings := by
  cases operation with
  | round => exact absurd rfl between
  | submit payload tier =>
      unfold perform submit
      dsimp only
      split
      · exact fits
      · split
        next accepted => exact fits.enqueue accepted
        next => exact fits
  | withdraw work =>
      unfold perform withdraw
      dsimp only
      split
      next => exact fits
      next withdrawn => exact fits.withdraw? withdrawn
  | drain =>
      obtain ⟨_, _, _, same⟩ := controller.drainWorkers_eq
      have kept : controller.drain.1.queues = controller.queues := congrArg (·.queues) same
      exact kept ▸ fits
  | _ => exact fits

/-- Every operation keeps queues and workers within their room. -/
theorem Sound.hasRoom_perform (sound : controller.Sound) (hasRoom : controller.HasRoom config)
    (size : controller.pool.size = config.pool.workers) (operation : Operation) :
    (controller.perform operation).1.HasRoom config := by
  have accounts := sound.perform operation
  have fits : (controller.perform operation).1.queues.Fits config.queues := by
    by_cases round : operation = .round
    · subst round
      exact sound.fits_runRound hasRoom
    · exact fits_perform operation round hasRoom.fits
  refine hasRoom.preserved sound accounts.sound fits fun tier => ?_
  have kept := accounts.accounted.countP_le tier
  cases admitted : (controller.stepOf operation).admitted? with
  | none => exact .inl (by simpa [admitted] using kept)
  | some item =>
      rw [admitted, Option.toList_some, Multiset.coe_singleton, Multiset.singleton_add] at kept
      by_cases same : item.tier = tier
      · -- The tier was below its capacity, and no more workers are at work than there are.
        subst same
        have below := depth_lt_of_admitted? admitted
        have working := controller.pool.activeInTier_le item.tier
        rw [Multiset.countP_cons_of_pos (p := fun other : WorkItem => other.tier = item.tier) _ rfl,
          sound.countP_live] at kept
        rw [hasRoom.capacity] at below
        exact .inr (by omega)
      · rw [Multiset.countP_cons_of_neg (p := fun other : WorkItem => other.tier = tier) _ same]
          at kept
        exact .inl kept

end Controller

namespace Lifetime

variable {config : Configuration} {history : History} {controller : Controller}

/-- A fresh controller holds nothing, so it has room. -/
theorem hasRoom_start (config : Configuration) : (Controller.start config).HasRoom config := by
  have fits : (Controller.start config).queues.Fits config.queues :=
    AdmissionQueues.fits_fresh _ _ _
  refine ⟨fits.capacity, fits.headroom, fun tier => ?_, fits.depth⟩
  rw [← (ledgered_start config).sound.countP_live, live_start]
  exact Nat.zero_le _

/-- Throughout a lifetime queues and workers stay within their room. -/
theorem hasRoom (lifetime : Lifetime config history controller) : controller.HasRoom config := by
  induction lifetime with
  | start created => exact start_eq created ▸ hasRoom_start config
  | step prior operation inductionHypothesis =>
      exact prior.ledgered.sound.hasRoom_perform inductionHypothesis
        (congrArg WorkerPool.Layout.workers prior.layout) operation

/-- If the headroom covers the workers, and capacity and headroom add up to a word in every
tier, no item is ever dropped because its queue is full. -/
theorem lossless (lifetime : Lifetime config history controller)
    (limited : config.queues.Limited)
    (ample : config.pool.workers ≤ config.queues.reclaimHeadroom) :
    ∀ drop ∈ history.drops, drop.reason ≠ .queueFull := by
  induction lifetime with
  | start created => simp [History.drops]
  | @step history before prior operation inductionHypothesis =>
      intro drop member
      rw [History.drops_concat] at member
      rcases List.mem_append.1 member with old | new
      · exact inductionHypothesis drop old
      · by_cases round : operation = .round
        · subst round
          exact prior.ledgered.sound.lossless_runRound prior.hasRoom limited ample drop new
        · rcases before.reason_stepOf operation round drop new with withdrawn | drained
          · simp [withdrawn]
          · simp [drained]

end Lifetime

end PoolArbiter
