import PoolArbiter.Proofs.Faults.Retries

/-!
# What is kept of an item

Two maps keep something of an item beside the queues and the slots: the collector keeps its
verdict, and the controller counts its faults. `Controller.Tidy` says what is in them
between any two operations. A verdict is kept on an item at work only. A counter is kept
for the live items that were taken back once from a worker past its time, and it stands at
one: the fault that would make it two erases it.
-/

namespace PoolArbiter

/-- Every counter that is kept stands at one. -/
def CountsOne (retries : KeyMap WorkId Nat) : Prop :=
  ∀ work count, retries.find? work = some count → count = 1

namespace CountsOne

variable {retries : KeyMap WorkId Nat}

/-- No counts at all are counts of one. -/
theorem empty : CountsOne .empty := by
  intro work count found
  cases found

/-- Forgetting an item leaves the other counts at one. -/
theorem erase (ones : CountsOne retries) (work : WorkId) : CountsOne (retries.erase work) := by
  intro other count found
  rw [KeyMap.find?_erase] at found
  split at found
  · cases found
  · exact ones other count found

/-- Counting an item once leaves all counts at one. -/
theorem insert_one (ones : CountsOne retries) (work : WorkId) :
    CountsOne (retries.insert work 1) := by
  intro other count found
  rw [KeyMap.find?_insert] at found
  split at found
  · exact (Option.some.inj found).symm
  · exact ones other count found

/-- A counter that is erased at once may have had any value. -/
theorem insert_erase (ones : CountsOne retries) (work : WorkId) (value : Nat) :
    CountsOne ((retries.insert work value).erase work) := by
  intro other count found
  rw [KeyMap.find?_erase, KeyMap.find?_insert] at found
  split at found
  · cases found
  · exact ones other count found

/-- An item has at most one fault that is counted. -/
theorem getD_le_one (ones : CountsOne retries) (work : WorkId) :
    (retries.find? work).getD 0 ≤ 1 := by
  cases found : retries.find? work with
  | none => exact Nat.zero_le 1
  | some count => exact Nat.le_of_eq (ones work count found)

end CountsOne

namespace Turn

variable {turn final : Turn}

/-- The counters of a turn stand at one. -/
abbrev CountsOne (turn : Turn) : Prop :=
  PoolArbiter.CountsOne turn.controller.faultRetries

/-- Queueing an item again leaves all counts at one. -/
theorem CountsOne.requeueOrDrop (ones : turn.CountsOne) (item : WorkItem) :
    (turn.requeueOrDrop item).CountsOne := by
  unfold Turn.requeueOrDrop
  dsimp only
  split
  · exact ones
  · exact ones.erase item.id

/-- Collecting leaves all counts at one. -/
theorem CountsOne.collect (ones : turn.CountsOne) (snapshot : Snapshot) :
    (turn.collect snapshot).CountsOne :=
  List.foldlRecOn (motive := Turn.CountsOne) _ _ ones fun _ ones result _ => ones.erase result.work

/-- The first fault of an item makes its counter one, and the second one erases it. -/
theorem CountsOne.reclaimFault (ones : turn.CountsOne) (worker : WorkerId) :
    (turn.reclaimFault worker).CountsOne := by
  unfold Turn.reclaimFault
  dsimp only
  split
  next => exact ones
  next item _ =>
    split
    next => exact ones.insert_erase item.id _
    next notAgain =>
      have first : (turn.controller.faultRetries.find? item.id).getD 0 = 0 := by omega
      rw [first]
      refine CountsOne.requeueOrDrop ?_ item
      exact ones.insert_one item.id

/-- However many workers are late, all counts stay at one. -/
theorem CountsOne.reclaimAll (ones : turn.CountsOne) (workers : List WorkerId) :
    (workers.foldl Turn.reclaimFault turn).CountsOne :=
  List.foldlRecOn (motive := Turn.CountsOne) _ _ ones fun _ ones worker _ =>
    ones.reclaimFault worker

/-- Exclusions leave all counts at one. -/
theorem CountsOne.applyHealth (ones : turn.CountsOne) (snapshot : Snapshot) :
    (turn.applyHealth snapshot).CountsOne :=
  List.foldlRecOn (motive := Turn.CountsOne) _ _ ones fun _ ones item _ => ones.requeueOrDrop item

/-- Idling a worker over the cap leaves all counts at one. -/
theorem CountsOne.preempt (ones : turn.CountsOne) (worker : WorkerId) :
    (turn.preempt worker).CountsOne := by
  unfold Turn.preempt
  dsimp only
  split
  next => exact ones
  next item _ =>
    split
    · exact ones.erase item.id
    · refine CountsOne.requeueOrDrop ?_ item
      exact ones

/-- Enforcing the cap leaves all counts at one. -/
theorem CountsOne.enforceCap (ones : turn.CountsOne) (snapshot : Snapshot) :
    (turn.enforceCap snapshot).CountsOne := by
  let governor :=
    turn.controller.governor.recompute turn.controller.pool.activeCount snapshot.sensor
  have shed : ((governor.excess turn.controller.pool).foldl Turn.preempt
      { turn with controller := { turn.controller with governor := governor } }).CountsOne :=
    List.foldlRecOn (motive := Turn.CountsOne) _ _ ones fun _ ones worker _ => ones.preempt worker
  exact shed

/-- The adaptation leaves all counts at one. -/
theorem CountsOne.adapt (ones : turn.CountsOne) : turn.adapt.CountsOne := by
  unfold Turn.adapt
  dsimp only
  split <;> exact ones

/-- Assignments leave all counts at one. -/
theorem CountsOne.assigns (ones : turn.CountsOne) (assigns : Assigns turn final) :
    final.CountsOne := by
  induction assigns with
  | done => exact ones
  | handOver _ _ inductionHypothesis => exact inductionHypothesis ones

end Turn

namespace Controller

variable {controller : Controller} {history : History} {faults : List WorkId}

/-- The counters of a controller stand at one. -/
abbrev CountsOne (controller : Controller) : Prop :=
  PoolArbiter.CountsOne controller.faultRetries

/-- After the collection all counts are one. -/
theorem CountsOne.collected (ones : controller.CountsOne) : controller.collected.CountsOne := by
  have settled : controller.settled.CountsOne := ones
  exact settled.collect _

/-- Before the assignments all counts are one. -/
theorem CountsOne.selecting (ones : controller.CountsOne) : controller.selecting.CountsOne := by
  have inspected : controller.inspected.CountsOne := ones.collected.reclaimAll _
  exact ((inspected.applyHealth _).enforceCap _).adapt

/-- A round leaves all counts at one. -/
theorem CountsOne.runRound (ones : controller.CountsOne) (sound : controller.Sound) :
    controller.runRound.1.CountsOne := by
  have assigned := ones.selecting.assigns (Turn.assignAll_assigns sound.selecting.sound)
  rw [runRound_eq, Controller.CountsOne, Turn.faultRetries_report]
  exact assigned

/-- Between rounds every operation leaves all counts at one. -/
theorem CountsOne.perform (ones : controller.CountsOne) (operation : Operation)
    (between : operation ≠ .round) : (controller.perform operation).1.CountsOne := by
  have erases := erases_perform controller operation between
  intro work count found
  by_cases recorded : work ∈ (controller.stepOf operation).records.map (·.work)
  · rw [erases.erased work recorded] at found
    cases found
  · rw [erases.kept work recorded] at found
    exact ones work count found

/-- A live item waits or is at work, once. -/
theorem mem_live_iff_times (ledgered : Ledgered history controller) (work : WorkId) :
    work ∈ controller.live.map (·.id) ↔
      controller.timesQueued work + controller.timesHeld work = 1 := by
  have places : (controller.live.map (·.id)).count work =
      controller.timesQueued work + controller.timesHeld work := by
    rw [live, Multiset.map_add, Multiset.count_add, count_contents,
      count_held ledgered.sound.pool]
    rfl
  rw [← places]
  constructor
  · exact Multiset.count_eq_one_of_mem ledgered.distinct_live
  · intro once
    exact Multiset.count_pos.1 (once ▸ Nat.zero_lt_one)

/-- What a controller keeps of items beside the queues and the slots, after some faults. -/
structure Tidy (faults : List WorkId) (controller : Controller) : Prop where
  /-- A verdict is kept only on an item that a worker at work holds. -/
  verdicts : ∀ work ∈ controller.collector.verdicts.keys,
    ∃ slot ∈ controller.pool.slots, slot.activeWork? = some work
  /-- There are no more verdicts than workers at work. -/
  size_le : controller.collector.verdicts.size ≤ controller.pool.activeCount
  /-- A counter belongs to an item that is queued or in flight and was taken back once. -/
  retries : ∀ work, work ∈ controller.faultRetries.keys ↔
    controller.timesQueued work + controller.timesHeld work = 1 ∧ faults.count work = 1
  /-- The counter of such an item is one. -/
  ones : ∀ work count, controller.faultRetries.find? work = some count → count = 1

/-- Verdicts are kept only for items at work. -/
theorem Recalls.mem_worksInFlight (recalls : controller.Recalls) (sound : controller.Sound)
    {work : WorkId} (kept : work ∈ controller.collector.verdicts.keys) :
    work ∈ controller.pool.worksInFlight := by
  rw [sound.pool.mem_worksInFlight]
  by_contra absent
  rw [KeyMap.mem_keys, KeyMap.contains, recalls work absent] at kept
  cases kept

/-- Counted are the live items that were late once. -/
theorem CountsFaults.mem_keys_iff (counts : controller.CountsFaults faults)
    (ones : controller.CountsOne) (work : WorkId) :
    work ∈ controller.faultRetries.keys ↔
      work ∈ controller.live.map (·.id) ∧ faults.count work = 1 := by
  rw [KeyMap.mem_keys, KeyMap.contains]
  by_cases alive : work ∈ controller.live.map (·.id)
  · rw [← counts.tally.counted work alive]
    cases found : controller.faultRetries.find? work with
    | none => simp
    | some count => simp [alive, ones work count found]
  · simp [counts.tally.forgotten work alive, alive]

/-- Neither faults nor verdicts are kept of an item that is gone. -/
theorem CountsFaults.tidy_of_recalls (counts : controller.CountsFaults faults)
    (ones : controller.CountsOne) (recalls : controller.Recalls)
    (ledgered : Ledgered history controller) :
    controller.Tidy faults where
  verdicts work kept :=
    List.mem_filterMap.1 (recalls.mem_worksInFlight ledgered.sound kept)
  size_le := by
    have distinct : controller.collector.verdicts.keys.Nodup :=
      List.pairwise_map.2 controller.collector.verdicts.distinct
    have part : (controller.collector.verdicts.keys : Multiset WorkId) ≤ controller.pool.works := by
      rw [← ledgered.sound.pool.coe_worksInFlight]
      exact (Multiset.le_iff_subset (Multiset.coe_nodup.2 distinct)).2 fun _ kept =>
        recalls.mem_worksInFlight ledgered.sound kept
    have fewer := Multiset.card_le_card part
    rw [ledgered.sound.pool.card_works, Multiset.coe_card, KeyMap.keys, List.length_map] at fewer
    exact fewer
  retries work := by
    rw [counts.mem_keys_iff ones, mem_live_iff_times ledgered]
  ones := ones

end Controller

namespace Lifetime

variable {config : Configuration} {history : History} {controller : Controller}

/-- Throughout a lifetime all counts of faults are one. -/
theorem countsOne (lifetime : Lifetime config history controller) : controller.CountsOne :=
  lifetime.invariant (motive := fun _ controller => controller.CountsOne) CountsOne.empty
    (fun prior ones => ones.runRound prior.ledgered.sound)
    fun operation between _ ones => ones.perform operation between

/-- At every point of every lifetime verdicts are kept on items at work only, and counters of
faults only for live items that were taken back once. -/
theorem tidy (lifetime : Lifetime config history controller) :
    controller.Tidy (history.faultedWorks config) :=
  lifetime.countsFaults.tidy_of_recalls lifetime.countsOne lifetime.recalls lifetime.ledgered

/-- One worker that may take one round: its item was late in the third round, it is at work
again, and a verdict on it waits for its completion. -/
theorem tidy_after_retry :
    let start := Controller.start { pool := { workers := 1, faultMinRounds := 1 } }
    let operations : List Operation :=
      [.submit ⟨[1]⟩ .low, .round, .round, .round, .receive (.verdict 1 true), .round]
    let history := start.stepsOf operations
    let controller := start.after operations
    Lifetime { pool := { workers := 1, faultMinRounds := 1 } } history controller ∧
      controller.collector.verdicts.keys = [1] ∧
      controller.faultRetries.entries = [(1, 1)] ∧
      controller.pool.activeCount = 1 ∧
      controller.Tidy (history.faultedWorks { pool := { workers := 1, faultMinRounds := 1 } }) := by
  intro start operations history controller
  have lifetime : Lifetime { pool := { workers := 1, faultMinRounds := 1 } } history controller :=
    (Lifetime.start rfl).after operations
  refine ⟨lifetime, ?_, ?_, ?_, lifetime.tidy⟩ <;> decide +kernel

end Lifetime

end PoolArbiter
