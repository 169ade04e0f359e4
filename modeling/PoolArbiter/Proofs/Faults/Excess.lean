import PoolArbiter.Proofs.Configuration.Tests
import PoolArbiter.Proofs.Custody.Refusals
import PoolArbiter.Proofs.Faults.Retries
import PoolArbiter.Proofs.Round.Quiet
import PoolArbiter.Proofs.Search.Partition

/-!
# Headroom beyond a word

Where capacity and headroom add up to more than a word, the limit of a tier is below its
capacity, so submissions alone can fill the tier up to the limit. An item that is taken back
from a worker then finds no room, although the headroom is empty. `Controller.Crowded` is this
state; one worker comes to it in two rounds (`exists_crowded`).
-/

namespace PoolArbiter

/-- The capacities and the headroom are words. -/
structure QueueSettings.AreWords (settings : QueueSettings) : Prop where
  capacity : ∀ tier, settings.capacityFor tier ≤ Binary64.greatestWord
  headroom : settings.reclaimHeadroom ≤ Binary64.greatestWord

/-- A limit that starts over is below the capacity, however small that is. -/
theorem QueueSettings.AreWords.limitFor_lt {settings : QueueSettings} (words : settings.AreWords)
    {tier : Tier}
    (exceeds : Binary64.greatestWord < settings.capacityFor tier + settings.reclaimHeadroom) :
    settings.limitFor tier < settings.capacityFor tier := by
  have once := Word.wrap_add_of_lt (words.capacity tier) words.headroom exceeds
  have headroom := words.headroom
  unfold QueueSettings.limitFor
  omega

/-- The depth at which a tier has used up its capacity and its headroom. -/
def AdmissionQueues.space (queues : AdmissionQueues) (tier : Tier) : Nat :=
  queues.capacity tier + queues.headroom tier

/-- The only worker is trusted and at work on an item of a tier since the last round. -/
structure Controller.Engaged (tier : Tier) (controller : Controller) : Prop where
  unreported : controller.feed = []
  unlocked : controller.gate.lockdown = false
  slots : ∃ item range, item.tier = tier ∧
    controller.pool.slots = [(WorkerSlot.fresh 0).take item range controller.round]

/-- The only worker is past its time, and the tier of its item is full for the item. -/
structure Controller.Crowded (tier : Tier) (controller : Controller) : Prop where
  unreported : controller.feed = []
  full : controller.queues.limit tier ≤ controller.queues.depth tier
  holds : ∃ item, item.tier = tier ∧ controller.pool.itemOf? 0 = some item
  overdue : controller.beginRound.overdue = [0]

namespace Configuration

variable {settings : QueueSettings} {tier : Tier}

/-- One worker that is past its time a round after it was handed an item. -/
def hasty (settings : QueueSettings) : Configuration where
  pool := { workers := 1, faultMinRounds := 0 }
  queues := settings

/-- With one worker and a short time limit the settings are still accepted. -/
theorem isAccepted_hasty (accepted : IsAccepted { queues := settings }) :
    (hasty settings).IsAccepted :=
  (isAccepted_iff_passes _).2
    { accepted.passes with
      workers := Nat.one_pos
      searchSpace := fun _ => (by decide : 1 ≤ 0x100000000) }

/-- A payload of one byte is valid. -/
theorem isValid_one (settings : QueueSettings) :
    (⟨[1]⟩ : Payload).IsValid (Controller.start (hasty settings)).queues.payloadLimit where
  nonempty := by decide
  fits := (by decide : 1 ≤ 256)
  nonzero := ⟨1, by decide⟩
  unreserved few := by simp at few

end Configuration

open PoolArbiter.Configuration

variable {settings : QueueSettings} {tier : Tier} {history : History} {controller : Controller}

/-- A worker that needs no time is past it a round after it was handed an item. -/
theorem isOverdue_hasty (item : WorkItem) (range : SearchRange) (round : Round) :
    Turn.isOverdue (hasty settings).pool (round + 1)
      ((WorkerSlot.fresh 0).take item range round).promote = true := by
  have none : Turn.timeout { workers := 1, faultMinRounds := 0 } (WorkerSlot.fresh 0) = 0 := by
    decide +kernel
  have timeout : Turn.timeout (hasty settings).pool
      ((WorkerSlot.fresh 0).take item range round).promote = 0 := none
  have elapsed : ((WorkerSlot.fresh 0).take item range round).promote.elapsed (round + 1) = 1 :=
    Nat.add_sub_cancel_left _ _
  rw [Turn.isOverdue, timeout, elapsed]
  rfl

/-- Submissions of one payload to one tier. -/
def supply (tier : Tier) (count : Nat) : List Operation :=
  List.replicate count (.submit ⟨[1]⟩ tier)

/-- Supplying items and budget takes no round. -/
theorem between_supply {count : Nat} : ∀ operation ∈ supply tier count, operation ≠ .round := by
  intro operation member
  rw [List.eq_of_mem_replicate member]
  exact Operation.noConfusion

/-- Before the first round an item waits, and it is of the tier. -/
structure Controller.Supplied (tier : Tier) (controller : Controller) : Prop where
  rested : controller.Rested
  unlocked : controller.gate.lockdown = false
  slots : controller.pool.slots = [.fresh 0]
  governor : controller.governor = .fresh {} 1
  waiting : 0 < controller.queues.totalDepth
  tiers : ∀ item ∈ controller.queues.contents, item.tier = tier

/-- One submission makes a controller supplied with its first item. -/
theorem supplied_after_submission (accepted : IsAccepted { queues := settings })
    (room : 0 < settings.capacityFor tier) :
    ((Controller.start (hasty settings)).after (supply tier 1)).Supplied tier := by
  have sorted := ((isAccepted_hasty accepted).lifetime.after (supply tier 1)).ledgered.sound.queues
  have unlocked : (Controller.start (hasty settings)).gate.lockdown = false := rfl
  obtain ⟨number, items, same, filled⟩ :=
    Controller.after_submits unlocked (isValid_one settings) tier 1
  have fits : (Controller.start (hasty settings)).queues.Fits settings :=
    AdmissionQueues.fits_fresh _ _ _
  have waits : (Controller.start (hasty settings)).queues.items tier = [] := by
    cases tier <;> rfl
  have contents : ((Controller.start (hasty settings)).queues.withItems tier items).contents =
      items := by
    have added := (Controller.start (hasty settings)).queues.contents_withItems tier items
    rwa [waits, Multiset.coe_nil, add_zero,
      show (Controller.start (hasty settings)).queues.contents = 0 from
        AdmissionQueues.contents_fresh _ _ _, zero_add] at added
  rw [supply, same] at sorted
  rw [fits.capacity] at filled
  rw [supply, same]
  refine ⟨⟨rfl, rfl, ?_⟩, rfl, rfl, rfl, ?_, ?_⟩
  · intro slot member
    obtain ⟨worker, _, rfl⟩ := List.mem_map.1 member
    rfl
  · rw [← AdmissionQueues.card_contents, contents, Multiset.coe_card]
    exact (lt_min room (Nat.succ_pos _)).trans_le filled
  · intro item member
    rw [contents, Multiset.mem_coe] at member
    have listed : item ∈ ((Controller.start (hasty settings)).queues.withItems tier items).items
        tier := by
      rw [AdmissionQueues.items_withItems, if_pos rfl]
      exact member
    exact sorted listed

/-- In the first round the worker is handed an item. -/
theorem Controller.Supplied.engaged (supplied : controller.Supplied tier)
    (sound : controller.Sound) : controller.runRound.1.Engaged tier where
  unreported := sound.feed_runRound
  unlocked := by
    rw [sound.gate_runRound, supplied.rested.quiet.vetted_eq]
    exact supplied.unlocked
  slots := by
    have rested := supplied.rested
    have size : controller.pool.size = 1 := by rw [WorkerPool.size, supplied.slots]; rfl
    have cap : controller.runRound.1.governor.state.activeCap = 1 := by
      rw [rested.governor_runRound sound, supplied.governor]
      decide +kernel
    have active : controller.runRound.1.pool.activeCount = 1 := by
      have waiting := supplied.waiting
      rw [rested.activeCount_runRound sound, rested.length_assignments sound, size, cap]
      omega
    have sizeAfter : controller.runRound.1.pool.size = 1 :=
      (WorkerPool.size_eq_of_layout sound.layout_runRound).trans size
    obtain ⟨later, slots⟩ := List.length_eq_one_iff.1 sizeAfter
    have found : controller.runRound.1.pool.slot? 0 = some later := by
      rw [WorkerPool.slot?, slots]
      rfl
    rw [WorkerPool.activeCount, slots] at active
    obtain ⟨earlier, item, present, queued, taken⟩ :=
      rested.slot?_runRound sound found (by simpa using active)
    rw [WorkerPool.slot?, supplied.slots] at present
    obtain rfl := Option.some.inj present
    refine ⟨item, controller.pool.rangeFor 0, supplied.tiers item queued, ?_⟩
    rw [slots, taken, sound.round_runRound]

/-- Submissions fill the tier of the item up to its limit. -/
theorem Controller.Engaged.crowded (engaged : controller.Engaged tier)
    (configured : controller.config = hasty settings) (fits : controller.queues.Fits settings)
    (payloadLimit : (⟨[1]⟩ : Payload).IsValid controller.queues.payloadLimit)
    (below : settings.limitFor tier ≤ settings.capacityFor tier) :
    (controller.after (supply tier (settings.limitFor tier))).Crowded tier := by
  obtain ⟨number, items, same, filled⟩ := Controller.after_submits engaged.unlocked payloadLimit
    tier (settings.limitFor tier)
  obtain ⟨item, range, ofTier, slots⟩ := engaged.slots
  rw [supply, same]
  refine ⟨engaged.unreported, ?_, ⟨item, ofTier, ?_⟩, ?_⟩
  · have limit : (controller.queues.withItems tier items).limit tier = settings.limitFor tier := by
      rw [AdmissionQueues.limit, AdmissionQueues.capacity_withItems,
        AdmissionQueues.headroom_withItems, fits.capacity, fits.headroom, QueueSettings.limitFor]
    rw [fits.capacity] at filled
    dsimp only
    rw [limit, AdmissionQueues.depth, AdmissionQueues.items_withItems, if_pos rfl]
    omega
  · dsimp only
    rw [WorkerPool.itemOf?, WorkerPool.slot?, slots]
    rfl
  · rw [Turn.overdue, Controller.beginRound, WorkerPool.promote]
    dsimp only
    rw [slots, configured, List.map_singleton, List.filter_singleton, isOverdue_hasty]
    rfl

/-- Nobody is past its time in a quiet round. -/
theorem Controller.Quiet.faultedWorks_eq_nil (quiet : controller.Quiet)
    (sound : controller.Sound) : controller.faultedWorks = [] := by
  rw [faultedWorks, sound.faulted_runRound, collected_of_unreported quiet.unreported,
    quiet.punctual]
  rfl

/-- One worker comes to a full tier in two rounds, and nothing was taken back before. -/
theorem Lifetime.exists_crowded (accepted : IsAccepted { queues := settings })
    (words : settings.AreWords)
    (exceeds : Binary64.greatestWord < settings.capacityFor tier + settings.reclaimHeadroom) :
    ∃ history controller, Lifetime (hasty settings) history controller ∧
      history.faultedWorks (hasty settings) = [] ∧ controller.Crowded tier := by
  have below := words.limitFor_lt exceeds
  have start := (isAccepted_hasty accepted).lifetime
  have submitted := start.after (supply tier 1)
  have supplied := supplied_after_submission accepted (Nat.zero_lt_of_lt below)
  have sound := submitted.ledgered.sound
  have ran := submitted.step .round
  refine ⟨_, _, ran.after (supply tier (settings.limitFor tier)), ?_, ?_⟩
  · rw [ran.faultedWorks_after between_supply, submitted.faultedWorks_round,
      start.faultedWorks_after between_supply, supplied.rested.quiet.faultedWorks_eq_nil sound]
    rfl
  · exact (supplied.engaged sound).crowded ran.config_eq ran.hasRoom.fits
      (ran.payloadLimit ▸ isValid_one settings) below.le

namespace Controller.Crowded

variable (crowded : controller.Crowded tier)

include crowded

/-- The next round takes back the item of the only worker. -/
theorem faulted (sound : controller.Sound) : controller.runRound.2.log.faulted = [] ++ 0 :: [] := by
  rw [sound.faulted_runRound, collected_of_unreported crowded.unreported, crowded.overdue]
  rfl

/-- In the next round the item finds its tier full. -/
theorem noRoom (sound : controller.Sound)
    (distinct : (controller.live.map (·.id)).Nodup) (counts : controller.CountsFaults []) :
    ∃ item : WorkItem, item.dropRecord .queueFull (controller.round + 1) ∈
      controller.runRound.2.log.drops := by
  obtain ⟨item, holds, ends⟩ := counts.ends sound distinct (crowded.faulted sound)
  obtain ⟨held, ofTier, same⟩ := crowded.holds
  obtain rfl := Option.some.inj (same.symm.trans holds)
  dsimp only [List.foldl_nil] at ends
  rw [collected_of_unreported crowded.unreported] at ends
  cases ends with
  | requeued _ room _ _ => exact absurd room (Nat.not_lt_of_le (ofTier ▸ crowded.full))
  | noRoom _ _ dropped => exact ⟨held, dropped⟩
  | exhausted second _ => cases second

/-- Neither the capacity nor the headroom is used up then. -/
theorem lt_space {config : Configuration} (sound : controller.Sound)
    (hasRoom : controller.HasRoom config) (single : config.pool.workers = 1)
    (headroom : 0 < config.queues.reclaimHeadroom) :
    controller.queues.depth tier < controller.queues.space tier := by
  obtain ⟨item, ofTier, holds⟩ := crowded.holds
  obtain ⟨slot, found, held⟩ := Option.bind_eq_some_iff.1 holds
  have present := WorkerPool.mem_of_slot? found
  have active := (sound.pool.slot present).isActive_of_item held
  have working : 0 < controller.pool.activeInTier tier :=
    List.countP_pos_iff.2 ⟨slot, present, by simp [active, held, ofTier]⟩
  have bounded := hasRoom.inTier tier
  rw [AdmissionQueues.space, hasRoom.headroom]
  omega

end Controller.Crowded

namespace Turn

variable {turn : Turn} {worker : WorkerId} {item : WorkItem}

/-- An item that finds no room leaves the queues as they are. -/
theorem queues_reclaimFault_of_full (holds : turn.controller.pool.itemOf? worker = some item)
    (full : turn.controller.queues.limit item.tier ≤ turn.controller.queues.depth item.tier) :
    (turn.reclaimFault worker).controller.queues = turn.controller.queues := by
  have refused : turn.controller.queues.requeue? item = none :=
    AdmissionQueues.requeue?_eq_none_iff.2 full
  unfold reclaimFault
  simp only [holds]
  split
  · rfl
  · unfold requeueOrDrop
    dsimp only
    rw [refused]
    rfl

end Turn

/-- Queueing items again, serving tiers and moving the guard leave capacity and headroom
alone. -/
theorem AdmissionQueues.isKept_fits (settings : QueueSettings) :
    IsKept fun queues => queues.Fits settings where
  requeue? fits accepted := fits.requeue? accepted
  popFrom? fits popped := fits.popFrom? popped
  withGuard guard fits := fits.withGuard guard

/-- While no sum exceeds a word, items return up to capacity and headroom. -/
theorem AdmissionQueues.Fits.limit_eq_space {queues : AdmissionQueues}
    (fits : queues.Fits settings) (limited : settings.Limited) (tier : Tier) :
    queues.limit tier = queues.space tier := by
  rw [fits.limit_eq, limited.limitFor_eq, AdmissionQueues.space, fits.capacity, fits.headroom]

/-- How faults end depends on the rule for full queues at the item's tier only. -/
theorem FaultEnds.congr {fullAt full : RoomRule} {count : Nat} {round : Round} {item : WorkItem}
    {turn next : Turn} {log : RoundLog} (ends : FaultEnds fullAt count round item turn next log)
    (same : fullAt turn.controller.queues item.tier = full turn.controller.queues item.tier) :
    FaultEnds full count round item turn next log := by
  cases ends with
  | requeued first room head listed => exact .requeued first (same ▸ room) head listed
  | noRoom first full dropped => exact .noRoom first (same ▸ full) dropped
  | exhausted second dropped => exact .exhausted second dropped

namespace QueueSettings

/-- In no lifetime whose headroom covers the workers an item is dropped because its queue is
full. -/
def KeepsReclaims (settings : QueueSettings) : Prop :=
  ∀ config history controller, config.queues = settings → Lifetime config history controller →
    config.pool.workers ≤ settings.reclaimHeadroom →
      ∀ drop ∈ history.drops, drop.reason ≠ .queueFull

/-- In every lifetime the first fault of an item queues it again unless capacity and headroom
are used up, and the second fault, and nothing else, drops it for its retries. -/
def RetriesFaults (settings : QueueSettings) : Prop :=
  ∀ config history controller, config.queues = settings → Lifetime config history controller →
    controller.LimitsFaults AdmissionQueues.space (history.faultedWorks config)

/-- Beyond a word an item is lost in the second round of one worker. -/
theorem not_keepsReclaims_of_exceeds (accepted : IsAccepted { queues := settings })
    (words : settings.AreWords)
    (exceeds : Binary64.greatestWord < settings.capacityFor tier + settings.reclaimHeadroom) :
    ¬ settings.KeepsReclaims := by
  intro keeps
  obtain ⟨history, controller, lifetime, unfaulted, crowded⟩ :=
    Lifetime.exists_crowded accepted words exceeds
  have counts := lifetime.countsFaults
  rw [unfaulted] at counts
  obtain ⟨item, dropped⟩ := crowded.noRoom lifetime.ledgered.sound
    lifetime.ledgered.distinct_live counts
  have ample : 1 ≤ settings.reclaimHeadroom := by
    have capacity := words.capacity tier
    omega
  have listed : item.dropRecord .queueFull (controller.round + 1) ∈
      History.drops (history ++ [controller.stepOf .round]) := by
    rw [History.drops_concat]
    exact List.mem_append_right _ dropped
  exact keeps _ _ _ rfl (lifetime.step .round) ample _ listed rfl

/-- If a sum exceeds a word, some faulted item is dropped while there is space. -/
theorem not_retriesFaults_of_exceeds (accepted : IsAccepted { queues := settings })
    (words : settings.AreWords)
    (exceeds : Binary64.greatestWord < settings.capacityFor tier + settings.reclaimHeadroom) :
    ¬ settings.RetriesFaults := by
  intro retries
  obtain ⟨history, controller, lifetime, unfaulted, crowded⟩ :=
    Lifetime.exists_crowded accepted words exceeds
  have sound := lifetime.ledgered.sound
  have headroom : 0 < settings.reclaimHeadroom := by
    have capacity := words.capacity tier
    omega
  obtain ⟨item, holds, ends⟩ := (retries _ _ _ rfl lifetime).ends _ _ _ (crowded.faulted sound)
  obtain ⟨held, ofTier, same⟩ := crowded.holds
  obtain rfl := Option.some.inj (same.symm.trans holds)
  subst ofTier
  rw [unfaulted] at ends
  dsimp only [List.foldl_nil] at ends
  rw [Controller.collected_of_unreported crowded.unreported] at ends
  cases ends with
  | requeued _ _ head _ =>
      rw [Turn.queues_reclaimFault_of_full ?_ crowded.full] at head
      · exact List.cons_ne_self _ _ head.symm
      · exact (WorkerPool.itemOf?_promote _ _).trans holds
  | noRoom _ full _ =>
      exact Nat.not_lt_of_le full (crowded.lt_space sound lifetime.hasRoom rfl headroom)
  | exhausted second _ => cases second

/-- Where capacity and headroom add up to a word, the limit of a tier is its space. -/
theorem Limited.retriesFaults (limited : settings.Limited) : settings.RetriesFaults := by
  rintro config history controller rfl lifetime
  have limits := lifetime.limitsFaults_limit
  refine ⟨limits.twice, fun earlier worker later found => ?_, limits.exhausted⟩
  obtain ⟨item, holds, ends⟩ := limits.ends earlier worker later found
  refine ⟨item, holds, ends.congr ?_⟩
  have fits : controller.collected.controller.queues.Fits config.queues := by
    rw [Controller.collected, Turn.queues_collect]
    exact lifetime.hasRoom.fits
  have fitsLater := (AdmissionQueues.isKept_fits config.queues).reclaimAll fits earlier
  exact fitsLater.limit_eq_space limited item.tier

/-- Where capacity and headroom do not add up to a word, some tier exceeds it. -/
theorem exists_exceeds_of_not_limited (unlimited : ¬ settings.Limited) :
    ∃ tier, Binary64.greatestWord < settings.capacityFor tier + settings.reclaimHeadroom := by
  simpa only [Limited, not_forall, Nat.not_le] using unlimited

/-- Room for one item in every tier, with the greatest headroom. -/
def boundless : QueueSettings where
  capacity := 1
  reclaimHeadroom := Binary64.greatestWord

/-- The check accepts an unlimited headroom. -/
theorem accepted_boundless : IsAccepted { queues := boundless } := by
  unfold IsAccepted
  decide +kernel

/-- An unlimited headroom is the greatest word. -/
theorem areWords_boundless : boundless.AreWords :=
  ⟨fun tier => by cases tier <;> decide +kernel, by decide +kernel⟩

/-- With it, capacity and headroom exceed a word. -/
theorem exceeds_boundless :
    Binary64.greatestWord < boundless.capacityFor .low + boundless.reclaimHeadroom := by
  decide +kernel

end QueueSettings

end PoolArbiter
