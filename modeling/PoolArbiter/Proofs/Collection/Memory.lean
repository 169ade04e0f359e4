import PoolArbiter.Proofs.Custody.Recall
import PoolArbiter.Proofs.Round.Slots

/-!
# Which verdicts are remembered

`History.lastVerdict?` reads off a history the last verdict on an item that was given to
rounds after a certain one. For an item at work that was handed over in a round, this is
the verdict that the next round applies: `Controller.Remembers` says so. Verdicts from
before the assignment are forgotten when the item leaves its worker, on whichever way it
does. `Controller.Mindful` adds what this rests on, and every operation keeps it.
-/

namespace PoolArbiter

/-- The verdict that a report brings. -/
def Report.verdict? : Report → Option (WorkId × Bool)
  | .verdict work valid => some (work, valid)
  | _ => none

/-- The verdict that a step sends in. -/
def Step.verdict? (step : Step) : Option (WorkId × Bool) :=
  match step.operation with
  | .receive report => report.verdict?
  | _ => none

/-- The last verdict on an item that was given to rounds after a certain one. What is sent
in after one round is given to the next. -/
def History.lastVerdict? (history : History) (work : WorkId) (assigned : Round) : Option Bool :=
  KeyMap.lastValue?
    (history.filterMap fun step => if assigned < step.round + 1 then step.verdict? else none) work

namespace History

variable {history : History} {step : Step} {work : WorkId} {assigned : Round}

/-- The last verdict since an assignment is that of the newest step that brought one. -/
theorem lastVerdict?_concat (later : assigned ≤ step.round) :
    lastVerdict? (history ++ [step]) work assigned =
      (KeyMap.lastValue? step.verdict?.toList work).or (history.lastVerdict? work assigned) := by
  unfold lastVerdict?
  rw [List.filterMap_append, KeyMap.lastValue?_append, List.filterMap_cons,
    if_pos (Nat.lt_succ_of_le later)]
  cases step.verdict? <;> rfl

/-- A step without a verdict does not change the last one. -/
theorem lastVerdict?_silent (silent : step.verdict? = none) :
    lastVerdict? (history ++ [step]) work assigned = history.lastVerdict? work assigned := by
  unfold lastVerdict?
  rw [List.filterMap_append, List.filterMap_cons, silent, ite_self, List.filterMap_nil,
    List.append_nil]

/-- Before an item is handed over no verdict on it counts. -/
theorem lastVerdict?_eq_none (past : ∀ step ∈ history, step.round < assigned) :
    history.lastVerdict? work assigned = none := by
  have nothing : (history.filterMap fun step =>
      if assigned < step.round + 1 then step.verdict? else none) = [] :=
    List.filterMap_eq_nil_iff.2 fun step member =>
      if_neg (Nat.not_lt_of_le (Nat.succ_le_of_lt (past step member)))
  unfold lastVerdict?
  rw [nothing]
  rfl

end History

namespace Snapshot

/-- Of several verdicts on an item in a feed the last one counts. -/
theorem find?_verdicts_ofReports (reports : List Report) (work : WorkId) :
    (ofReports reports).verdicts.find? work =
      KeyMap.lastValue? (reports.filterMap Report.verdict?) work :=
  KeyMap.find?_ofList _ _

end Snapshot

namespace Controller

variable {controller : Controller} {history : History} {work : WorkId}

/-- The verdict that the next round applies to an item at work: the one that waits in the
feed, and otherwise the one that is kept. -/
theorem Sound.pendingVerdict?_of_works (sound : controller.Sound)
    (working : work ∈ controller.pool.works) :
    controller.pendingVerdict? work =
      (KeyMap.lastValue? (controller.feed.filterMap Report.verdict?) work).or
        (controller.collector.verdicts.find? work) := by
  rw [pendingVerdict?_eq, if_pos (sound.pool.mem_worksInFlight.2 working),
    Snapshot.find?_verdicts_ofReports]

/-- The next round applies to an item at work the last verdict that was given to rounds after
its assignment. -/
def Remembers (history : History) (controller : Controller) : Prop :=
  ∀ worker slot item assigned, controller.pool.slot? worker = some slot →
    slot.item = some item → slot.assignedRound = some assigned →
      controller.pendingVerdict? item.id = history.lastVerdict? item.id assigned

/-- What a slot holds is at work. -/
theorem mem_works_of_slot? {worker : WorkerId} {slot : WorkerSlot} {item : WorkItem}
    (found : controller.pool.slot? worker = some slot) (holds : slot.item = some item) :
    item.id ∈ controller.pool.works :=
  WorkerPool.mem_works.2 ⟨slot, WorkerPool.mem_of_slot? found, item, holds, rfl⟩

section Receiving

/-- A verdict on an item at work replaces an earlier one. -/
theorem Remembers.receive (remembers : controller.Remembers history) (sound : controller.Sound)
    (dated : controller.pool.Each (WorkerSlot.Dated controller.round)) (report : Report) :
    (controller.receive report).Remembers
      (history ++ [controller.stepOf (.receive report)]) := by
  intro worker slot item assigned found holds given
  replace found : controller.pool.slot? worker = some slot := found
  have working := mem_works_of_slot? found holds
  have soundAfter : (controller.receive report).Sound := ⟨sound.pool, sound.queues⟩
  have before := remembers worker slot item assigned found holds given
  have past : assigned ≤ (controller.stepOf (.receive report)).round :=
    dated slot (WorkerPool.mem_of_slot? found) assigned given
  rw [sound.pendingVerdict?_of_works working] at before
  rw [soundAfter.pendingVerdict?_of_works working, History.lastVerdict?_concat past, ← before]
  have arrived : (controller.receive report).feed.filterMap Report.verdict? =
      controller.feed.filterMap Report.verdict? ++ report.verdict?.toList := by
    rw [Controller.receive, List.filterMap_append]
    cases verdict : report.verdict? <;> simp [verdict]
  rw [arrived, KeyMap.lastValue?_append, Option.or_assoc]
  rfl

end Receiving

section Between

/-- Only reports and rounds change the feed. -/
theorem feed_perform (controller : Controller) (operation : Operation)
    (between : operation ≠ .round) (silent : ∀ report, operation ≠ .receive report) :
    (controller.perform operation).1.feed = controller.feed := by
  cases operation with
  | round => exact absurd rfl between
  | receive report => exact absurd rfl (silent report)
  | submit payload tier =>
      unfold perform submit
      dsimp only
      split
      · rfl
      · split <;> rfl
  | withdraw work =>
      unfold perform withdraw
      dsimp only
      split <;> rfl
  | drain =>
      obtain ⟨_, _, _, same⟩ := controller.drainWorkers_eq
      have kept := congrArg Controller.feed same
      exact kept
  | _ => rfl

/-- An item that waits is not at work. -/
theorem not_mem_works_of_queued (distinct : (controller.live.map (·.id)).Nodup) {item : WorkItem}
    (queued : item ∈ controller.queues.contents) : item.id ∉ controller.pool.works := by
  rw [live, Multiset.map_add, Multiset.nodup_add] at distinct
  exact Multiset.disjoint_left.1 distinct.2.2 (Multiset.mem_map_of_mem _ queued)

/-- Operations between two rounds leave the verdicts on the items that stay at work. -/
theorem Recalls.verdicts_perform (recalls : controller.Recalls)
    (distinct : (controller.live.map (·.id)).Nodup) (operation : Operation)
    (between : operation ≠ .round) (working : work ∈ (controller.perform operation).1.pool.works) :
    (controller.perform operation).1.collector.verdicts.find? work =
      controller.collector.verdicts.find? work := by
  cases operation with
  | round => exact absurd rfl between
  | drain =>
      have departs := recalls.departs_drain (nodup_works_of_live distinct)
      replace working : work ∈ controller.drain.1.pool.works := working
      rw [show (controller.perform .drain).1 = controller.drain.1 from rfl, departs.recalled work,
        zero_add, if_pos working]
  | submit payload tier =>
      unfold Controller.perform submit
      dsimp only
      split
      · rfl
      · split <;> rfl
  | withdraw other =>
      rw [works_perform controller _ between (by simp)] at working
      unfold Controller.perform withdraw
      dsimp only
      split
      next => rfl
      next item queues withdrawn =>
        have queued : item ∈ controller.queues.contents := by
          rw [AdmissionQueues.contents_withdraw? withdrawn]
          exact Multiset.mem_cons_self _ _
        have different : work ≠ item.id := fun equal =>
          not_mem_works_of_queued distinct queued (equal ▸ working)
        refine (KeyMap.find?_erase _ item.id work).trans ?_
        rw [if_neg different]
  | _ => rfl

/-- An operation that brings no report keeps what is remembered. -/
theorem Remembers.perform (remembers : controller.Remembers history) (sound : controller.Sound)
    (recalls : controller.Recalls) (distinct : (controller.live.map (·.id)).Nodup)
    (operation : Operation) (between : operation ≠ .round)
    (silent : ∀ report, operation ≠ .receive report) :
    (controller.perform operation).1.Remembers (history ++ [controller.stepOf operation]) := by
  intro worker slot item assigned found holds given
  have soundAfter := (sound.perform operation).sound
  have working := mem_works_of_slot? found holds
  have unsaid : (controller.stepOf operation).verdict? = none := by
    cases operation with
    | receive report => exact absurd rfl (silent report)
    | _ => rfl
  obtain ⟨earlier, present, freed⟩ := (sound.frees_perform operation between).slot found
  cases freed with
  | kept =>
      have before := remembers worker slot item assigned present holds given
      rw [sound.pendingVerdict?_of_works (mem_works_of_slot? present holds)] at before
      rw [soundAfter.pendingVerdict?_of_works working, feed_perform _ _ between silent,
        recalls.verdicts_perform distinct operation between working,
        History.lastVerdict?_silent unsaid, before]
  | freed _ vacant => simp [vacant.item] at holds

end Between

section Round

/-- After a round a verdict is remembered for what has been at work throughout, and none for what
was assigned in it. -/
theorem Sound.verdicts_runRound (sound : controller.Sound) (recalls : controller.Recalls)
    (distinct : controller.pool.works.Nodup)
    (working : work ∈ controller.runRound.1.pool.works) :
    controller.runRound.1.collector.verdicts.find? work =
      if work ∈ controller.selecting.controller.pool.works then controller.pendingVerdict? work
      else none := by
  have soundAfter : controller.runRound.1.pool.Sound := (sound.perform .round).sound.pool
  have inFlight := soundAfter.mem_worksInFlight.2 working
  rw [pool_runRound] at inFlight
  rw [runRound_eq, Turn.collector_report, Collector.find?_retainInFlight, if_pos inFlight,
    (Turn.assignAll_assigns sound.selecting.sound).collector_eq,
    (sound.departs_selecting recalls distinct).logged.recalled work, zero_add]

/-- A round keeps in mind the last verdicts on what is at work after it. -/
theorem Remembers.runRound (remembers : controller.Remembers history) (sound : controller.Sound)
    (recalls : controller.Recalls) (distinct : (controller.live.map (·.id)).Nodup)
    (past : ∀ step ∈ history, step.round ≤ controller.round) :
    controller.runRound.1.Remembers (history ++ [controller.stepOf .round]) := by
  intro worker slot item assigned found holds given
  have soundAfter : controller.runRound.1.Sound := (sound.perform .round).sound
  have working := mem_works_of_slot? found holds
  rw [soundAfter.pendingVerdict?_of_works working, sound.feed_runRound, List.filterMap_nil,
    sound.verdicts_runRound recalls (nodup_works_of_live distinct) working,
    History.lastVerdict?_silent rfl]
  rw [pool_runRound] at found
  rcases (Turn.assignAll_assigns sound.selecting.sound).slot_cases sound.selecting.sound found with
    same | ⟨earlier, taken, present, _, queued, rfl⟩
  · -- The item was kept since the round began.
    obtain ⟨middle, present, freed⟩ := controller.frees_before_assigning.slot same
    cases freed with
    | kept =>
        rw [WorkerPool.slot?_promote] at present
        obtain ⟨earlier, origin, rfl⟩ := Option.map_eq_some_iff.1 present
        rw [WorkerSlot.promote_eq] at holds given
        have stays : item.id ∈ controller.selecting.controller.pool.works := by
          refine mem_works_of_slot? same ?_
          rw [WorkerSlot.promote_eq]
          exact holds
        rw [if_pos stays]
        exact remembers worker earlier item assigned origin holds given
    | freed _ vacant => simp [vacant.item] at holds
  · -- The item was handed over just now, so it waited and no verdict on it is left.
    obtain rfl : taken = item := Option.some.inj holds
    obtain rfl : controller.selecting.controller.round = assigned := Option.some.inj given
    have waited : taken.id ∉ controller.selecting.controller.pool.works := by
      have apart := sound.selecting.accounted.distinct_live distinct
      rw [zero_add] at apart
      exact not_mem_works_of_queued apart queued
    rw [if_neg waited, round_selecting]
    exact (History.lastVerdict?_eq_none fun step member =>
      Nat.lt_succ_of_le (past step member)).symm

end Round

/-- What a controller keeps so that verdicts apply to the assignments they were given for. -/
structure Mindful (history : History) (controller : Controller) : Prop where
  ledgered : Ledgered history controller
  recalls : controller.Recalls
  dated : controller.pool.Each (WorkerSlot.Dated controller.round)
  past : ∀ step ∈ history, step.round ≤ controller.round
  remembers : controller.Remembers history

namespace Mindful

/-- A fresh controller minds an empty history. -/
theorem start (config : Configuration) : (Controller.start config).Mindful [] where
  ledgered := Lifetime.ledgered_start config
  recalls := fun _ _ => rfl
  dated := dated_start config
  past := by simp
  remembers := by
    intro worker slot item assigned found holds
    obtain ⟨number, _, rfl⟩ := List.mem_map.1 (WorkerPool.mem_of_slot? found)
    cases holds

/-- No step of a history lies after the current round. -/
theorem past_concat (mindful : controller.Mindful history) {operation : Operation}
    (ascending : controller.round ≤ (controller.perform operation).1.round) :
    ∀ step ∈ history ++ [controller.stepOf operation],
      step.round ≤ (controller.perform operation).1.round := by
  intro step member
  rcases List.mem_append.1 member with old | new
  · exact Nat.le_trans (mindful.past step old) ascending
  · rw [List.mem_singleton.1 new]
    exact ascending

/-- A controller that minds its history does so after a round. -/
theorem runRound (mindful : controller.Mindful history) :
    controller.runRound.1.Mindful (history ++ [controller.stepOf .round]) := by
  have sound := mindful.ledgered.sound
  have ledgered : Ledgered (history ++ [controller.stepOf .round]) controller.runRound.1 :=
    Lifetime.ledgered_step mindful.ledgered .round
  have ascending : controller.round ≤ controller.runRound.1.round := by
    rw [sound.round_runRound]
    exact Nat.le_succ _
  exact ⟨ledgered, sound.recalls_runRound, sound.dated_perform mindful.dated .round,
    mindful.past_concat ascending,
    mindful.remembers.runRound sound mindful.recalls mindful.ledgered.distinct_live mindful.past⟩

/-- Every operation keeps the verdicts with their assignments. -/
theorem perform (mindful : controller.Mindful history) (operation : Operation) :
    (controller.perform operation).1.Mindful (history ++ [controller.stepOf operation]) := by
  by_cases round : operation = .round
  · subst round
    exact mindful.runRound
  · have sound := mindful.ledgered.sound
    have same := round_perform controller operation round
    refine ⟨Lifetime.ledgered_step mindful.ledgered operation,
      mindful.recalls.perform mindful.ledgered.nodup_works operation round,
      sound.dated_perform mindful.dated operation,
      mindful.past_concat (Nat.le_of_eq same.symm), ?_⟩
    by_cases report : ∃ report, operation = .receive report
    · obtain ⟨report, rfl⟩ := report
      exact mindful.remembers.receive sound mindful.dated report
    · exact mindful.remembers.perform sound mindful.recalls mindful.ledgered.distinct_live
        operation round fun received same => report ⟨received, same⟩

end Mindful

end Controller

end PoolArbiter
