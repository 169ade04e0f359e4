import PoolArbiter.Proofs.Collection.Memory
import PoolArbiter.Proofs.Collection.Poll
import PoolArbiter.Proofs.Collection.Stream
import PoolArbiter.Proofs.Round.Named

/-!
# Hits are published as judged

A hit that is accepted is published as found, unless the last verdict that was given on
the item since it was handed over has failed; then it is published as exhausted and
charged as one violation. The stream of hits carries what is published as found.
-/

namespace PoolArbiter

namespace WorkerSlot

variable {slot : WorkerSlot} {completions : List Completion} {completion : Completion}
  {said : WorkId → Option Bool}

/-- Promotion does not change which completion counts for a slot. -/
theorem completion?_promote (slot : WorkerSlot) (completions : List Completion) :
    slot.promote.completion? completions = slot.completion? completions := by
  have named : slot.promote.isNamedBy = slot.isNamedBy := by
    funext completion
    rw [isNamedBy, activeWork?_promote, promote_eq, isNamedBy]
  rw [completion?, named, completion?]

/-- Promotion does not change the result of a slot. -/
theorem result?_promote (slot : WorkerSlot) (completions : List Completion)
    (said : WorkId → Option Bool) (round : Round) :
    slot.promote.result? completions said round = slot.result? completions said round := by
  rw [result?, completion?_promote, promote_eq, result?]

/-- Promotion does not change whether a hit of a slot is rejected. -/
theorem isRejected_promote (slot : WorkerSlot) (completions : List Completion)
    (said : WorkId → Option Bool) :
    slot.promote.isRejected completions said = slot.isRejected completions said := by
  rw [isRejected, completion?_promote, isRejected]

/-- A hit whose verdict failed is published as exhausted, and any other outcome as it is. -/
theorem judged_eq (counts : slot.completion? completions = some completion) :
    Collector.judged (said completion.work) completion.outcome =
      if slot.isRejected completions said then .exhausted else completion.outcome := by
  rw [isRejected, counts, Option.any_some]
  rfl

end WorkerSlot

namespace History

/-- Whether a hit is reported for a slot and the last verdict on its item, of those given to
rounds after its assignment, has failed. -/
def rejects (history : History) (completions : List Completion) (slot : WorkerSlot) : Bool :=
  (slot.completion? completions).any fun completion =>
    completion.outcome.isFound &&
      slot.assignedRound.any fun assigned =>
        history.lastVerdict? completion.work assigned == some false

end History

namespace WorkerSlot.Sound

variable {slot : WorkerSlot} {completions : List Completion} {completion : Completion}

/-- A completion counts for a slot that holds its item. -/
theorem holds_of_completion? (sound : slot.Sound)
    (counts : slot.completion? completions = some completion) :
    ∃ item assigned, slot.item = some item ∧ item.id = completion.work ∧
      slot.assignedRound = some assigned := by
  have works := activeWork?_of_completion? counts
  unfold activeWork? at works
  split at works
  next active =>
    obtain ⟨item, holds, named⟩ := Option.map_eq_some_iff.1 works
    have dated := sound.assignedRound
    rw [active] at dated
    obtain ⟨assigned, given⟩ := Option.isSome_iff_exists.1 dated
    exact ⟨item, assigned, holds, named, given⟩
  next => cases works

end WorkerSlot.Sound

namespace Controller

variable {controller : Controller} {history : History}

/-- The completions that the next round sees. -/
def completions (controller : Controller) : List Completion :=
  (Snapshot.ofReports controller.feed).completions

/-- A round rejects the hits that the history rejects. -/
theorem Mindful.rejects_eq (mindful : controller.Mindful history) {slot : WorkerSlot}
    (present : slot ∈ controller.pool.slots) :
    history.rejects controller.completions slot =
      slot.isRejected controller.completions controller.pendingVerdict? := by
  have sound := mindful.ledgered.sound.pool
  unfold History.rejects WorkerSlot.isRejected
  cases counts : slot.completion? controller.completions with
  | none => rfl
  | some completion =>
      obtain ⟨item, assigned, holds, named, given⟩ :=
        (sound.slot present).holds_of_completion? counts
      have verdict :=
        mindful.remembers slot.id slot item assigned (sound.found present) holds given
      rw [Option.any_some, Option.any_some, given, Option.any_some, ← named, verdict]

section Collecting

/-- A round collects the results of the slots whose items were completed. -/
theorem Sound.results_collected (sound : controller.Sound)
    (distinct : controller.pool.works.Nodup) :
    (controller.collected.log.results : Multiset WorkResult) =
      controller.pool.gather
        (·.result? controller.completions controller.pendingVerdict? (controller.round + 1)) := by
  have promoted : controller.pool.promote.works.Nodup := by rwa [WorkerPool.works_promote]
  obtain ⟨order, perm, results, _⟩ := Collector.exists_order_poll sound.pool.promote promoted
    controller.settled.controller.collector controller.completions (controller.round + 1)
  have polled := congrArg RoundLog.Findings.results
    (Turn.findings_collect controller.settled (Snapshot.ofReports controller.feed))
  have collected : controller.collected.log.results = order.filterMap
      (·.result? controller.completions controller.pendingVerdict? (controller.round + 1)) :=
    polled.trans results
  rw [collected, ← WorkerPool.gather_promote fun slot => slot.result?_promote _ _ _]
  exact Multiset.coe_eq_coe.2 (perm.filterMap _)

/-- A round charges one violation for each hit that is rejected. -/
theorem Sound.oversight_collected (sound : controller.Sound)
    (distinct : controller.pool.works.Nodup) :
    let charged := controller.settled.controller.gate.countViolations
      (controller.pool.slots.countP
        (·.isRejected controller.completions controller.pendingVerdict?))
    controller.collected.oversight =
      { controller.settled.oversight with
        gate := charged.1
        lockdownRaised := controller.settled.log.lockdownRaised || charged.2 } := by
  have promoted : controller.pool.promote.works.Nodup := by rwa [WorkerPool.works_promote]
  obtain ⟨order, perm, _, untrusted⟩ := Collector.exists_order_poll sound.pool.promote promoted
    controller.settled.controller.collector controller.completions (controller.round + 1)
  have polled :=
    Turn.oversight_collect controller.settled (Snapshot.ofReports controller.feed)
  have counted : (controller.settled.controller.collector.poll controller.completions
      controller.pool.promote (controller.round + 1)).yield.untrusted.length =
        controller.pool.slots.countP
          (·.isRejected controller.completions controller.pendingVerdict?) := by
    rw [untrusted, List.length_map, ← List.countP_eq_length_filter, perm.countP_eq,
      WorkerPool.promote, List.countP_map]
    exact List.countP_congr fun slot _ => by
      rw [Function.comp_apply, WorkerSlot.isRejected_promote]
      rfl
  rw [← counted]
  exact polled

end Collecting

section Publishing

/-- If no two values have the same key, a value is the only one with its key. -/
theorem filter_key_eq {α κ : Type} [DecidableEq κ] {key : α → κ} {values : List α} {value : α}
    {name : κ} (distinct : (values.map key).Nodup) (member : value ∈ values)
    (named : key value = name) : values.filter (fun other => key other = name) = [value] := by
  subst named
  induction values with
  | nil => cases member
  | cons first rest inductionHypothesis =>
      rw [List.map_cons, List.nodup_cons] at distinct
      rcases List.mem_cons.1 member with rfl | later
      · have others : rest.filter (fun other => key other = key value) = [] :=
          List.filter_eq_nil_iff.2 fun other present same =>
            distinct.1 (List.mem_map.2 ⟨other, present, of_decide_eq_true same⟩)
        rw [List.filter_cons_of_pos (by simp), others]
      · have different : key first ≠ key value := fun same =>
          distinct.1 (List.mem_map.2 ⟨value, later, same.symm⟩)
        rw [List.filter_cons_of_neg (by simpa using different),
          inductionHypothesis distinct.2 later]

/-- A round publishes at most one result about an item. -/
theorem Mindful.nodup_results (mindful : controller.Mindful history) :
    (controller.runRound.2.log.results.map (·.work)).Nodup := by
  have works := mindful.ledgered.nodup_works
  rw [mindful.ledgered.sound.works_runRound mindful.recalls works, Multiset.nodup_add,
    Multiset.coe_nodup, RoundLog.departed, List.nodup_append] at works
  exact works.2.1.1

/-- The result of a slot whose item was completed. -/
theorem Mindful.result?_eq (mindful : controller.Mindful history) {slot : WorkerSlot}
    (present : slot ∈ controller.pool.slots) {completion : Completion} {item : WorkItem}
    (counts : slot.completion? controller.completions = some completion)
    (holds : slot.item = some item) (round : Round) :
    slot.result? controller.completions controller.pendingVerdict? round =
      some (item.result slot.id
        (if history.rejects controller.completions slot then .exhausted else completion.outcome)
        round) := by
  rw [WorkerSlot.result?, counts, holds, mindful.rejects_eq present,
    ← WorkerSlot.judged_eq counts]
  rfl

end Publishing

/-- What the next round makes of the completions that it sees. -/
structure GatesHits (history : History) (controller : Controller) : Prop where
  /-- The completion that counts for a slot is published once, with its outcome, or as
  exhausted if the last verdict that was given since the assignment has failed. -/
  published : ∀ slot ∈ controller.pool.slots, ∀ item completion, slot.item = some item →
    slot.completion? controller.completions = some completion →
      controller.runRound.2.log.results.filter (·.work = item.id) =
        [item.result slot.id
          (if history.rejects controller.completions slot then .exhausted
            else completion.outcome) (controller.round + 1)]
  /-- No other hits are published. -/
  reported : ∀ result ∈ controller.runRound.2.log.results, result.outcome.isFound = true →
    ∃ slot ∈ controller.pool.slots, ∃ item completion, slot.item = some item ∧
      slot.completion? controller.completions = some completion ∧
      history.rejects controller.completions slot = false ∧
      result = item.result slot.id completion.outcome (controller.round + 1)
  /-- Each hit that is rejected is one violation. -/
  charged : controller.collected.controller.gate =
    (controller.settled.controller.gate.countViolations
      (controller.pool.slots.countP (history.rejects controller.completions))).1

/-- A controller that minds its history publishes a hit just if the last verdict since the
assignment allows it. -/
theorem Mindful.gatesHits (mindful : controller.Mindful history) :
    controller.GatesHits history := by
  have sound := mindful.ledgered.sound
  have collected := sound.results_collected mindful.ledgered.nodup_works
  refine ⟨?_, ?_, ?_⟩
  · intro slot present item completion holds counts
    have listed : item.result slot.id
        (if history.rejects controller.completions slot then .exhausted else completion.outcome)
        (controller.round + 1) ∈ (controller.collected.log.results : Multiset WorkResult) := by
      rw [collected]
      exact WorkerPool.mem_gather.2 ⟨slot, present, mindful.result?_eq present counts holds _⟩
    rw [Multiset.mem_coe] at listed
    exact filter_key_eq mindful.nodup_results (sound.results_collected_subset listed) rfl
  · intro result member found
    have hit : result ∈ controller.runRound.2.log.results.filter (·.outcome.isFound) :=
      List.mem_filter.2 ⟨member, found⟩
    rw [sound.found_runRound] at hit
    have listed := Multiset.mem_coe.2 (List.mem_of_mem_filter hit)
    rw [collected] at listed
    obtain ⟨slot, present, yields⟩ := WorkerPool.mem_gather.1 listed
    have counted := yields
    obtain ⟨completion, counts, _⟩ := Option.bind_eq_some_iff.1 counted
    obtain ⟨item, _, holds, _⟩ := (sound.pool.slot present).holds_of_completion? counts
    rw [mindful.result?_eq present counts holds, Option.some.injEq] at yields
    have accepted : history.rejects controller.completions slot = false := by
      rw [Bool.eq_false_iff]
      intro rejected
      rw [if_pos rejected] at yields
      rw [← yields] at found
      cases found
    rw [accepted] at yields
    exact ⟨slot, present, item, completion, holds, counts, accepted, yields.symm⟩
  · have charged :=
      congrArg Oversight.gate (sound.oversight_collected mindful.ledgered.nodup_works)
    simp only [Turn.oversight, Oversight.of] at charged
    rw [charged]
    congr 2
    exact List.countP_congr fun slot present => by rw [mindful.rejects_eq present]

end Controller

namespace Streaming

variable {config : Configuration} {history : History} {read : List WorkResult}
  {controller : Controller}

/-- A stream is read of a controller that minds its history. -/
theorem mindful (streaming : Streaming config history read controller) :
    controller.Mindful history :=
  streaming.invariant (fun history controller => controller.Mindful history)
    (Controller.Mindful.start config) (fun operation mindful => mindful.perform operation)
    fun _ mindful =>
      { mindful with
        ledgered :=
          { mindful.ledgered with
            sound := ⟨mindful.ledgered.sound.pool, mindful.ledgered.sound.queues⟩ } }

/-- Hits are published as the verdicts since their assignment say, and the stream carries
those that are published. -/
theorem integrity (streaming : Streaming config history read controller) :
    controller.GatesHits history ∧
      (controller.hits.abandoned = false →
        read ++ controller.hits.waiting = history.results.filter (·.outcome.isFound)) :=
  ⟨streaming.mindful.gatesHits, streaming.hits⟩

/-- The verdict on the first item fails, and then the item is taken back from an excluded
worker: the hit of the next worker is published and read. The verdict on the second item
fails while it is at work: the hit that waits in the feed is to be rejected. -/
theorem integrity_after_reassignment :
    let start := Controller.start { pool := { workers := 2 } }
    let operations : List Operation :=
      [.submit ⟨[1]⟩ .low, .round, .receive (.verdict 1 false), .round,
        .receive (.health ⟨0, true, 0⟩), .round,
        .receive (.completion ⟨1, 1, .found [7], .ofFloat 0⟩), .submit ⟨[2]⟩ .low, .round,
        .receive (.verdict 2 false), .receive (.completion ⟨1, 2, .found [8], .ofFloat 0⟩)]
    let history := start.stepsOf operations
    let taken := (start.after operations).takeHits.1
    let read := taken.readHits.2
    let controller := taken.readHits.1
    Streaming { pool := { workers := 2 } } history read controller ∧
      history.requeued = [1] ∧
      read = [⟨1, 1, .low, .found [7], 0, 4⟩] ∧
      controller.pool.slots.map (history.rejects controller.completions) = [false, true] ∧
      controller.hits.abandoned = false ∧
      controller.GatesHits history ∧
      (controller.hits.abandoned = false →
        read ++ controller.hits.waiting = history.results.filter (·.outcome.isFound)) := by
  intro start operations history taken read controller
  have lifetime : Lifetime { pool := { workers := 2 } } history (start.after operations) :=
    (Lifetime.start rfl).after operations
  have streaming := (of_lifetime lifetime).take.read
  rw [List.nil_append] at streaming
  refine ⟨streaming, ?_, ?_, ?_, ?_, streaming.integrity⟩ <;> decide +kernel

end Streaming

/-- Throughout a lifetime the controller minds its history. -/
theorem Lifetime.mindful {config : Configuration} {history : History} {controller : Controller}
    (lifetime : Lifetime config history controller) : controller.Mindful history :=
  (Streaming.of_lifetime lifetime).mindful

end PoolArbiter
