import PoolArbiter.Proofs.Custody.Ledger
import PoolArbiter.Proofs.Faults.Tally
import PoolArbiter.Proofs.Round.Entries
import PoolArbiter.Proofs.Round.Timeouts

/-!
# Faults of an item over its life

The first fault of an item puts it back at the head of its tier, unless the tier has no room
left, and the second one drops it for its retries. No item has a third one, and nothing else
is dropped for its retries. `Controller.CountsFaults` is the invariant between two
operations: the counters of the live items are the numbers of their faults, and there are
no other counters.
-/

namespace PoolArbiter

/-- How many items fill the tiers of some queues. -/
abbrev RoomRule : Type :=
  AdmissionQueues → Tier → Nat

/-- What becomes of an item that is taken back from a worker past its time, if some faults
of it were counted before: the turns are those before and after, and the log is that of the
report. A rule says when the tier of the item is full. -/
inductive FaultEnds (fullAt : RoomRule) (count : Nat) (round : Round) (item : WorkItem)
    (turn next : Turn) (log : RoundLog) : Prop where
  | requeued (first : count = 0)
      (room : turn.controller.queues.depth item.tier < fullAt turn.controller.queues item.tier)
      (head : next.controller.queues.items item.tier =
        item :: turn.controller.queues.items item.tier)
      (listed : item.id ∈ log.requeued)
  | noRoom (first : count = 0)
      (full : fullAt turn.controller.queues item.tier ≤ turn.controller.queues.depth item.tier)
      (dropped : item.dropRecord .queueFull round ∈ log.drops)
  | exhausted (second : count = 1)
      (dropped : item.dropRecord .retriesExhausted round ∈ log.drops)

/-- What a fault came to stands in every longer log. -/
theorem FaultEnds.extend {fullAt : RoomRule} {count : Nat} {round : Round} {item : WorkItem}
    {turn next : Turn} {log more : RoundLog}
    (ends : FaultEnds fullAt count round item turn next log)
    (extended : log.Extends more) : FaultEnds fullAt count round item turn next more := by
  cases ends with
  | requeued first room head listed =>
      exact .requeued first room head (extended.requeued listed)
  | noRoom first full dropped => exact .noRoom first full (extended.drops dropped)
  | exhausted second dropped => exact .exhausted second (extended.drops dropped)

/-- A fault ends in one of three ways. -/
theorem Turn.Tallies.ends {turn : Turn} {items : Multiset WorkItem} {faults : List WorkId}
    {worker : WorkerId} {item : WorkItem} (tallies : turn.Tallies items faults)
    (holds : turn.controller.pool.itemOf? worker = some item)
    (stays : turn.IsOpen items item.id) :
    FaultEnds AdmissionQueues.limit (faults.count item.id) turn.controller.round item turn
      (turn.reclaimFault worker) (turn.reclaimFault worker).log := by
  have counted := tallies.counted item.id stays
  have once := tallies.once item.id stays
  unfold Turn.reclaimFault
  simp only [holds]
  split
  next again =>
    have listed : faults.count item.id = 1 := by omega
    exact .exhausted listed (List.mem_append_right _ (List.mem_singleton.2 rfl))
  next notAgain =>
    have fresh : faults.count item.id = 0 := by omega
    unfold Turn.requeueOrDrop
    dsimp only
    split
    next queues accepted =>
      refine .requeued fresh (Nat.lt_of_not_le ?_) ?_
        (List.mem_append_right _ (List.mem_singleton.2 rfl))
      · exact AdmissionQueues.requeue?_eq_none_iff.not.1 (accepted ▸ Option.some_ne_none queues)
      · rw [AdmissionQueues.requeue?_eq_some accepted, AdmissionQueues.items_withItems, if_pos rfl]
    next refused =>
      exact .noRoom fresh (AdmissionQueues.requeue?_eq_none_iff.1 refused)
        (List.mem_append_right _ (List.mem_singleton.2 rfl))

namespace Controller

variable {history : History} {controller : Controller} {faults : List WorkId}

/-- The items that the next round takes back from workers past their time. -/
def faultedWorks (controller : Controller) : List WorkId :=
  controller.pool.worksOf controller.runRound.2.log.faulted

/-- The counters of a controller agree with the faults so far. -/
structure CountsFaults (faults : List WorkId) (controller : Controller) : Prop where
  tally : FaultTally (· ∈ controller.live.map (·.id)) [] faults controller.faultRetries
  past : ∀ work ∈ faults, work < controller.nextId

section Round

/-- The items of workers past their time are those that they held when the round began. -/
theorem Sound.itemOf?_overdue (sound : controller.Sound) {worker : WorkerId}
    (late : worker ∈ controller.collected.overdue) :
    ∃ item, controller.collected.controller.pool.itemOf? worker = some item ∧
      controller.pool.itemOf? worker = some item := by
  obtain ⟨slot, overdue, rfl⟩ := List.mem_map.1 late
  obtain ⟨present, past⟩ := List.mem_filter.1 overdue
  simp only [Turn.isOverdue, Bool.and_eq_true] at past
  have soundAt := sound.collected.sound
  have stays := soundAt.found present
  obtain ⟨item, holds⟩ := Option.isSome_iff_exists.1 ((soundAt.slot present).item.trans past.1)
  obtain ⟨earlier, before, frees⟩ := controller.frees_collected.slot stays
  obtain rfl := frees.eq_of_isActive past.1
  have held {pool : WorkerPool} (found : pool.slot? slot.id = some slot) :
      pool.itemOf? slot.id = some item := by
    rw [WorkerPool.itemOf?, found, Option.bind_some, holds]
  refine ⟨item, held stays, ?_⟩
  rw [← WorkerPool.itemOf?_promote]
  exact held before

/-- The faulted items are those of the late workers. -/
theorem Sound.faultedWorks_eq (sound : controller.Sound) :
    controller.faultedWorks =
      controller.collected.controller.pool.worksOf controller.collected.overdue := by
  rw [faultedWorks, sound.faulted_runRound]
  refine List.filterMap_congr fun worker late => ?_
  obtain ⟨item, holds, held⟩ := sound.itemOf?_overdue late
  rw [holds, held]

/-- The round is begun with the counters of the state before it. -/
theorem CountsFaults.beginRound (counts : controller.CountsFaults faults) :
    controller.beginRound.Tallies controller.live faults :=
  counts.tally.congr fun _ => ⟨And.left, fun alive => ⟨alive, fun _ written => by cases written⟩⟩

/-- After the collection the counts still tally. -/
theorem CountsFaults.collected (counts : controller.CountsFaults faults) :
    controller.collected.Tallies controller.live faults := by
  have settled : controller.settled.Tallies controller.live faults := counts.beginRound
  exact settled.collect _

/-- What some of the faults of a round leave behind. -/
theorem CountsFaults.reclaims (counts : controller.CountsFaults faults) (sound : controller.Sound)
    (distinct : (controller.live.map (·.id)).Nodup) {earlier later : List WorkerId}
    (found : controller.collected.overdue = earlier ++ later) :
    (earlier.foldl Turn.reclaimFault controller.collected).Keeps controller.live 0 ∧
      (earlier.foldl Turn.reclaimFault controller.collected).Tallies controller.live
        (faults ++ controller.collected.controller.pool.worksOf earlier) := by
  have trusted := Turn.trusts_of_mem_overdue sound.collected.sound
  have apart := Turn.nodup_overdue sound.collected.sound
  have listed : ∀ worker ∈ earlier, worker ∈ controller.collected.overdue := fun worker member => by
    rw [found]
    exact List.mem_append_left _ member
  rw [found] at apart
  exact counts.collected.reclaimAll sound.collected distinct (List.nodup_append.1 apart).1
    fun worker member => trusted worker (listed worker member)

/-- No item is late twice in one round. -/
theorem Sound.nodup_faultedWorks (sound : controller.Sound)
    (distinct : controller.pool.works.Nodup) : controller.faultedWorks.Nodup := by
  rw [faultedWorks, sound.faulted_runRound]
  exact WorkerPool.nodup_worksOf distinct (Turn.nodup_overdue sound.collected.sound)

/-- Only live items are late. -/
theorem mem_live_of_faultedWorks {work : WorkId} (taken : work ∈ controller.faultedWorks) :
    work ∈ controller.live.map (·.id) := by
  obtain ⟨worker, _, held⟩ := List.mem_filterMap.1 taken
  obtain ⟨item, holds, rfl⟩ := Option.map_eq_some_iff.1 held
  rw [live, Multiset.map_add, Multiset.mem_add]
  exact .inr (WorkerPool.mem_works_of_holds holds)

/-- Each fault of a round ends in one of three ways. -/
theorem CountsFaults.ends (counts : controller.CountsFaults faults) (sound : controller.Sound)
    (distinct : (controller.live.map (·.id)).Nodup) {earlier later : List WorkerId}
    {worker : WorkerId}
    (found : controller.runRound.2.log.faulted = earlier ++ worker :: later) :
    ∃ item, controller.pool.itemOf? worker = some item ∧
      let turn := earlier.foldl Turn.reclaimFault controller.collected
      FaultEnds AdmissionQueues.limit (faults.count item.id) (controller.round + 1) item turn
        (turn.reclaimFault worker) controller.runRound.2.log := by
  rw [sound.faulted_runRound] at found
  have late : worker ∈ controller.collected.overdue := by
    rw [found]
    exact List.mem_append_right _ List.mem_cons_self
  obtain ⟨item, holds, began⟩ := sound.itemOf?_overdue late
  refine ⟨item, began, ?_⟩
  intro turn
  obtain ⟨keeps, tallies⟩ := counts.reclaims sound distinct found
  -- The faults before this one leave the worker its item, and they take back other items.
  have apart := sound.nodup_faultedWorks (nodup_works_of_live distinct)
  have alone := Turn.nodup_overdue sound.collected.sound
  rw [found, List.nodup_append] at alone
  have unlisted : worker ∉ earlier := fun member =>
    alone.2.2 worker member worker List.mem_cons_self rfl
  have held : turn.controller.pool.itemOf? worker = some item := by
    have pool : turn.controller.pool = controller.collected.controller.pool.releaseAll earlier :=
      WorkerPool.view_foldl_release (fun turn : Turn => turn.controller.pool)
        Turn.pool_reclaimFault earlier controller.collected
    rw [pool, WorkerPool.itemOf?, WorkerPool.slot?_releaseAll, if_neg unlisted,
      ← WorkerPool.itemOf?, holds]
  have fresh : item.id ∉ controller.collected.controller.pool.worksOf earlier := by
    rw [sound.faultedWorks_eq, found, WorkerPool.worksOf, List.filterMap_append,
      List.filterMap_cons, holds, List.nodup_append] at apart
    exact fun member => apart.2.2 item.id member item.id List.mem_cons_self rfl
  have ends := tallies.ends held (keeps.isOpen distinct held)
  have round : turn.controller.round = controller.round + 1 := by
    have same := congrArg (·.controller.round)
      (Turn.view_foldl Turn.frame Turn.frame_reclaimFault earlier controller.collected)
    exact same.trans (round_collected controller)
  rw [List.count_append, List.count_eq_zero.2 fresh, Nat.add_zero, round] at ends
  -- What was entered stays in the log until the report.
  have inspected : controller.inspected =
      later.foldl Turn.reclaimFault (turn.reclaimFault worker) := by
    have all : controller.inspected =
        controller.collected.overdue.foldl Turn.reclaimFault controller.collected := rfl
    rw [all, found, List.foldl_append, List.foldl_cons]
  have extended := RoundLog.Extends.foldl Turn.extends_reclaimFault later (turn.reclaimFault worker)
  rw [← inspected] at extended
  exact ends.extend (extended.trans sound.extends_runRound)

/-- At the end of a round the counts tally with its faults included. -/
theorem CountsFaults.tallies_assigned (counts : controller.CountsFaults faults)
    (sound : controller.Sound) (distinct : (controller.live.map (·.id)).Nodup) :
    controller.selecting.assignAll.Tallies controller.live (faults ++ controller.faultedWorks) := by
  have inspected : controller.inspected.Tallies controller.live
      (faults ++ controller.faultedWorks) := by
    rw [sound.faultedWorks_eq]
    exact (counts.reclaims sound distinct (List.append_nil _).symm).2
  exact (((inspected.applyHealth _).enforceCap _).adapt).assigns
    (Turn.assignAll_assigns sound.selecting.sound)

/-- What a round drops for its retries was taken back once before and again in the round. -/
theorem CountsFaults.exhausted (counts : controller.CountsFaults faults)
    (sound : controller.Sound) (distinct : (controller.live.map (·.id)).Nodup)
    {drop : DropRecord} (member : drop ∈ controller.runRound.2.log.drops)
    (reason : drop.reason = .retriesExhausted) :
    faults.count drop.work = 1 ∧ drop.work ∈ controller.faultedWorks := by
  have recorded := sound.runRound.accounted.recorded
    (List.mem_append_right _ (List.mem_map_of_mem member))
  have before := counts.tally.once drop.work recorded
  have within := List.nodup_iff_count_le_one.1
    (sound.nodup_faultedWorks (nodup_works_of_live distinct)) drop.work
  rw [runRound_eq, Turn.log_report] at member
  have twice := (counts.tallies_assigned sound distinct).exhausted drop member reason
  rw [List.count_append] at twice
  exact ⟨by omega, List.count_pos_iff.1 (by omega)⟩

/-- A round counts its faults. -/
theorem CountsFaults.runRound (counts : controller.CountsFaults faults)
    (ledgered : Ledgered history controller) :
    controller.runRound.1.CountsFaults (faults ++ controller.faultedWorks) where
  tally := by
    have sound := ledgered.sound
    have assigned := counts.tallies_assigned sound ledgered.distinct_live
    have retries : controller.runRound.1.faultRetries =
        controller.selecting.assignAll.controller.faultRetries := by
      rw [runRound_eq, Turn.faultRetries_report]
    have records : controller.runRound.2.log.records =
        controller.selecting.assignAll.log.records := by
      rw [runRound_eq, Turn.log_report]
    have live := sound.runRound.accounted
    rw [zero_add, records] at live
    rw [retries]
    exact assigned.withoutDrops.congr (live.mem_live_iff ledgered.distinct_live)
  past := by
    intro work member
    have ascending := (ledgered.sound.perform .round).ascending
    refine Nat.lt_of_lt_of_le ?_ ascending
    rcases List.mem_append.1 member with old | new
    · exact counts.past work old
    · obtain ⟨item, alive, rfl⟩ := Multiset.mem_map.1 (mem_live_of_faultedWorks new)
      exact ledgered.numbered item (ledgered.accounted.mem_of_live alive)

end Round

section Between

/-- The counters of some items are erased, and the others stay. -/
structure Erases (retries next : KeyMap WorkId Nat) (works : List WorkId) : Prop where
  erased : ∀ work ∈ works, next.find? work = none
  kept : ∀ work, work ∉ works → next.find? work = retries.find? work

/-- Without work nothing is erased. -/
theorem Erases.refl (retries : KeyMap WorkId Nat) : Erases retries retries [] :=
  ⟨fun _ member => (List.not_mem_nil member).elim, fun _ _ => rfl⟩

/-- Erasing goes on one item at a time. -/
theorem Erases.erase {retries next : KeyMap WorkId Nat} {works : List WorkId}
    (erases : Erases retries next works) (work : WorkId) :
    Erases retries (next.erase work) (works ++ [work]) where
  erased other member := by
    rw [KeyMap.find?_erase]
    split
    · rfl
    next different =>
      exact erases.erased other
        ((List.mem_append.1 member).resolve_right fun new => different (List.mem_singleton.1 new))
  kept other unlisted := by
    rw [List.mem_append, not_or, List.mem_singleton] at unlisted
    rw [KeyMap.find?_erase, if_neg unlisted.2, erases.kept other unlisted.1]

/-- Draining forgets the faults of the items it drops. -/
theorem erases_drain (controller : Controller) :
    Erases controller.faultRetries controller.drain.1.faultRetries
      (controller.drain.2.map (·.work)) := by
  refine List.foldlRecOn (motive := fun progress : Controller × List DropRecord =>
    Erases controller.faultRetries progress.1.faultRetries (progress.2.map (·.work)))
    controller.pool.activeDescending.reverse drainWorker (b := (controller, [])) (.refl _) ?_
  intro progress erases worker _
  unfold drainWorker
  dsimp only
  split
  next => exact erases
  next item _ =>
    rw [List.map_append]
    exact erases.erase item.id

/-- Between two rounds the counters of the items that end are erased. -/
theorem erases_perform (controller : Controller) (operation : Operation)
    (between : operation ≠ .round) :
    Erases controller.faultRetries (controller.perform operation).1.faultRetries
      ((controller.stepOf operation).records.map (·.work)) := by
  cases operation with
  | round => exact absurd rfl between
  | submit payload tier =>
      unfold stepOf perform submit
      dsimp only
      split
      · exact .refl _
      · split <;> exact .refl _
  | withdraw work =>
      unfold stepOf perform withdraw
      dsimp only
      split
      next => exact .refl _
      next item _ _ => exact (Erases.refl controller.faultRetries).erase item.id
  | drain =>
      have works : (controller.stepOf .drain).records.map (·.work) =
          controller.drain.2.map (·.work) := by
        have records : (controller.stepOf .drain).records = controller.drain.2.map .dropped := rfl
        rw [records, List.map_map]
        rfl
      rw [works]
      exact erases_drain controller
  | _ => exact .refl _

/-- The number of a new item belongs to no live item. -/
theorem nextId_not_mem_live (ledgered : Ledgered history controller) :
    controller.nextId ∉ controller.live.map (·.id) := by
  intro member
  obtain ⟨item, alive, same⟩ := Multiset.mem_map.1 member
  exact Nat.ne_of_lt (ledgered.numbered item (ledgered.accounted.mem_of_live alive)) same

/-- The item that an operation admits is none of those that were live. -/
theorem distinct_admitted (ledgered : Ledgered history controller) (operation : Operation) :
    ((((controller.stepOf operation).admitted?.toList : Multiset WorkItem) +
      controller.live).map (·.id)).Nodup := by
  cases admitted : (controller.stepOf operation).admitted? with
  | none => simpa using ledgered.distinct_live
  | some item =>
      have numbered := ((ledgered.sound.perform operation).numbered item admitted).1
      have unused := nextId_not_mem_live ledgered
      rw [← numbered] at unused
      rw [Option.toList_some, Multiset.coe_singleton, Multiset.singleton_add, Multiset.map_cons]
      exact Multiset.nodup_cons.2 ⟨unused, ledgered.distinct_live⟩

/-- The counters of the live items and of the one that is admitted. -/
theorem CountsFaults.counted (counts : controller.CountsFaults faults)
    (ledgered : Ledgered history controller) {operation : Operation} {work : WorkId}
    (member : work ∈ (((controller.stepOf operation).admitted?.toList : Multiset WorkItem) +
      controller.live).map (·.id)) :
    (controller.faultRetries.find? work).getD 0 = faults.count work ∧ faults.count work ≤ 1 := by
  rw [Multiset.map_add, Multiset.mem_add] at member
  rcases member with new | old
  · obtain ⟨item, admitted, rfl⟩ := Multiset.mem_map.1 new
    have numbered := ((ledgered.sound.perform operation).numbered item
      (Option.mem_toList.1 (Multiset.mem_coe.1 admitted))).1
    have fresh : faults.count controller.nextId = 0 :=
      List.count_eq_zero.2 fun listed => Nat.lt_irrefl _ (counts.past _ listed)
    rw [numbered, counts.tally.forgotten _ (nextId_not_mem_live ledgered), fresh]
    exact ⟨rfl, Nat.zero_le 1⟩
  · exact ⟨counts.tally.counted work old, counts.tally.once work old⟩

/-- Between rounds no operation counts a fault. -/
theorem CountsFaults.perform (counts : controller.CountsFaults faults)
    (ledgered : Ledgered history controller) (operation : Operation)
    (between : operation ≠ .round) : (controller.perform operation).1.CountsFaults faults where
  tally := by
    have erases := erases_perform controller operation between
    have stays := (ledgered.sound.perform operation).accounted.mem_live_iff
      (distinct_admitted ledgered operation)
    have kept {work : WorkId} (unrecorded : ∀ record ∈ (controller.stepOf operation).records,
        record.work ≠ work) := erases.kept work fun recorded => by
      obtain ⟨record, written, about⟩ := List.mem_map.1 recorded
      exact unrecorded record written about
    refine ⟨fun work alive => ?_, fun work alive => ?_, fun work ended => ?_, counts.tally.twice,
      fun _ member => by cases member⟩
    · obtain ⟨member, unrecorded⟩ := (stays work).1 alive
      rw [kept unrecorded]
      exact (counts.counted ledgered member).1
    · exact (counts.counted ledgered ((stays work).1 alive).1).2
    · by_cases recorded : work ∈ (controller.stepOf operation).records.map (·.work)
      · exact erases.erased work recorded
      · rw [erases.kept work recorded]
        refine counts.tally.forgotten work fun alive => ended ((stays work).2 ⟨?_, ?_⟩)
        · rw [Multiset.map_add]
          exact Multiset.mem_add.2 (.inr alive)
        · exact fun record written about => recorded (List.mem_map.2 ⟨record, written, about⟩)
  past work member :=
    Nat.lt_of_lt_of_le (counts.past work member) (ledgered.sound.perform operation).ascending

end Between

/-- The faults of the items before the next operation and in it. -/
structure LimitsFaults (fullAt : RoomRule) (faults : List WorkId) (controller : Controller) :
    Prop where
  /-- No item was taken back more than twice. -/
  twice : ∀ work, faults.count work ≤ 2
  /-- Every worker past its time gives back an item, which is queued again after its first
  fault, if there is room, and dropped after its second one. -/
  ends : ∀ earlier worker later,
    controller.runRound.2.log.faulted = earlier ++ worker :: later →
      ∃ item, controller.pool.itemOf? worker = some item ∧
        let turn := earlier.foldl Turn.reclaimFault controller.collected
        FaultEnds fullAt (faults.count item.id) (controller.round + 1) item turn
          (turn.reclaimFault worker) controller.runRound.2.log
  /-- An item is dropped for its retries only in the round of its second fault. -/
  exhausted : ∀ operation, ∀ drop ∈ (controller.stepOf operation).drops,
    drop.reason = .retriesExhausted →
      operation = .round ∧ faults.count drop.work = 1 ∧ drop.work ∈ controller.faultedWorks

/-- While the counts hold, a fault ends as its item's count demands. -/
theorem CountsFaults.limits (counts : controller.CountsFaults faults)
    (ledgered : Ledgered history controller) :
    controller.LimitsFaults AdmissionQueues.limit faults where
  twice := counts.tally.twice
  ends _ _ _ found := counts.ends ledgered.sound ledgered.distinct_live found
  exhausted operation drop member reason := by
    by_cases round : operation = .round
    · subst round
      exact ⟨rfl, counts.exhausted ledgered.sound ledgered.distinct_live member reason⟩
    · rcases controller.reason_stepOf operation round drop member with withdrawn | drained
      · simp [withdrawn] at reason
      · simp [drained] at reason

end Controller

/-- The items that the rounds of a history took back from workers past their time, one entry
for each time. -/
def History.faultedWorks (history : History) (config : Configuration) : List WorkId :=
  ((Controller.start config).roundStarts (history.map (·.operation))).flatMap
    Controller.faultedWorks

namespace Lifetime

variable {config : Configuration} {history : History} {controller : Controller}

/-- The faults of a history grow by those of its last round. -/
theorem faultedWorks_round (lifetime : Lifetime config history controller) :
    History.faultedWorks (history ++ [controller.stepOf .round]) config =
      history.faultedWorks config ++ controller.faultedWorks := by
  rw [History.faultedWorks, lifetime.starts_round, List.flatMap_append,
    List.flatMap_singleton, History.faultedWorks]

/-- Between rounds no item is late. -/
theorem faultedWorks_between (lifetime : Lifetime config history controller)
    {operation : Operation} (between : operation ≠ .round) :
    History.faultedWorks (history ++ [controller.stepOf operation]) config =
      history.faultedWorks config := by
  rw [History.faultedWorks, lifetime.starts_between between, History.faultedWorks]

/-- Operations between two rounds take nothing back from workers past their time. -/
theorem faultedWorks_after (lifetime : Lifetime config history controller)
    {operations : List Operation} (between : ∀ operation ∈ operations, operation ≠ .round) :
    History.faultedWorks (history ++ controller.stepsOf operations) config =
      history.faultedWorks config := by
  induction operations generalizing history controller with
  | nil => rw [Controller.stepsOf, List.append_nil]
  | cons operation rest inductionHypothesis =>
      have first := lifetime.faultedWorks_between (between operation List.mem_cons_self)
      have later := inductionHypothesis (lifetime.step operation)
        fun other member => between other (List.mem_cons_of_mem _ member)
      rw [List.append_assoc, List.singleton_append] at later
      rw [Controller.stepsOf, later, first]

/-- A fresh controller has counted no fault. -/
theorem countsFaults_start (config : Configuration) :
    (Controller.start config).CountsFaults [] where
  tally := by
    rw [live_start]
    refine ⟨?_, ?_, fun _ _ => KeyMap.find?_empty _, ?_, ?_⟩ <;> simp
  past := by simp

/-- Throughout a lifetime the controller counts the faults of its history. -/
theorem countsFaults (lifetime : Lifetime config history controller) :
    controller.CountsFaults (history.faultedWorks config) := by
  refine lifetime.invariant (motive := fun history controller =>
    controller.CountsFaults (history.faultedWorks config)) (countsFaults_start config) ?_ ?_
  · intro history before prior counts
    rw [prior.faultedWorks_round]
    exact counts.runRound prior.ledgered
  · intro history before operation between prior counts
    rw [prior.faultedWorks_between between]
    exact counts.perform prior.ledgered operation between

/-- Over its whole life an item is taken back at most twice from workers past their time. Its
first fault queues it again at the head of its tier or, if the tier has reached its limit, drops
it for lack of room, and its second fault, and nothing else, drops it for its retries. -/
theorem limitsFaults_limit (lifetime : Lifetime config history controller) :
    controller.LimitsFaults AdmissionQueues.limit (history.faultedWorks config) :=
  lifetime.countsFaults.limits lifetime.ledgered

end Lifetime

end PoolArbiter
