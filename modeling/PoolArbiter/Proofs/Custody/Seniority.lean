import Mathlib.Data.List.Pairwise
import PoolArbiter.Proofs.Admission.Seniority
import PoolArbiter.Proofs.Collection.Integrity
import PoolArbiter.Proofs.Custody.Ledger
import PoolArbiter.Proofs.Faults.Tally
import PoolArbiter.Proofs.Round.Tenure

/-!
# Items are first handed out in the order of submission

Tiers, policies and the starvation guard decide which tier is served, but every tier is
served at the head of its line. `Seniority` ties the lines of the queues to the items at
work and to the assignments so far. A round takes items back to the heads of their lines
and then hands out those that its policy selects; other operations add an item at a tail
or take one away. So within a tier the first assignments follow the order of submission.
-/

namespace PoolArbiter

/-- The lines of all tiers, with the items at work: these were handed out before. -/
structure Seniority (submitted : Tier → List WorkId) (requeued : List WorkId)
    (assignments : List Assignment) (queues : AdmissionQueues) (pool : WorkerPool) : Prop where
  held : ∀ worker item, pool.itemOf? worker = some item →
    item.id ∈ Assignment.firsts assignments item.tier
  lines : ∀ tier, InLine (submitted tier) requeued (Assignment.firsts assignments tier)
    (queues.items tier)

/-- An item that a worker has kept was there before. -/
theorem WorkerPool.Frees.itemOf? {before after : WorkerPool} (frees : before.Frees after)
    {worker : WorkerId} {item : WorkItem} (holds : after.itemOf? worker = some item) :
    before.itemOf? worker = some item := by
  obtain ⟨later, found, held⟩ := Option.bind_eq_some_iff.1 holds
  obtain ⟨earlier, present, freed⟩ := frees.slot found
  cases freed with
  | kept => rw [WorkerPool.itemOf?, present, Option.bind_some, held]
  | freed _ vacant => simp [vacant.item] at held

namespace Seniority

variable {submitted : Tier → List WorkId} {requeued more : List WorkId}
  {assignments : List Assignment} {queues next : AdmissionQueues} {pool after : WorkerPool}

/-- Items at work come back to the heads of their lines. -/
theorem comeBack (seniority : Seniority submitted requeued assignments queues pool)
    (back : ∀ tier, ∃ front, next.items tier = front ++ queues.items tier ∧
      ∀ item ∈ front, item.id ∈ more ∧ ∃ worker, pool.itemOf? worker = some item)
    (sorted : next.Sorted) (frees : pool.Frees after) :
    Seniority submitted (requeued ++ more) assignments next after where
  held worker item holds := seniority.held worker item (frees.itemOf? holds)
  lines tier := by
    obtain ⟨front, items, returned⟩ := back tier
    rw [items]
    refine (seniority.lines tier).comeBack fun item member => ?_
    obtain ⟨requeued, worker, holds⟩ := returned item member
    have own : item.tier = tier := by
      apply sorted
      rw [items]
      exact List.mem_append_left _ member
    exact ⟨own ▸ seniority.held worker item holds, requeued⟩

end Seniority

namespace Turn

variable {submitted : Tier → List WorkId} {requeued : List WorkId} {earlier : List Assignment}
  {turn final : Turn} {selection : Policy.Selection}

/-- The lines of a turn, with the assignments before the round and those of the round. -/
abbrev Senior (submitted : Tier → List WorkId) (requeued : List WorkId)
    (earlier : List Assignment) (turn : Turn) : Prop :=
  Seniority submitted requeued (earlier ++ turn.log.assignments) turn.controller.queues
    turn.controller.pool

/-- Handing over a selected item serves its line. -/
theorem Senior.handOver (senior : turn.Senior submitted requeued earlier)
    (distinct : ∀ tier, (submitted tier).Nodup) (sorted : turn.controller.queues.Sorted)
    (selected : turn.selection? = some selection) :
    (turn.handOver selection).Senior submitted requeued earlier := by
  obtain ⟨_, _, ⟨tier, _, popped⟩, _⟩ := Policy.select?_eq_some selected
  have own := (sorted.popFrom? popped).2
  obtain ⟨rest, items, served⟩ := AdmissionQueues.popFrom?_eq_some_iff.1 popped
  have assigned : earlier ++ (turn.handOver selection).log.assignments =
      (earlier ++ turn.log.assignments) ++ [turn.assignmentOf selection] :=
    (List.append_assoc ..).symm
  constructor
  · intro worker item holds
    rw [assigned]
    obtain ⟨slot, found, held⟩ := Option.bind_eq_some_iff.1 holds
    rw [slot?_handOver] at found
    split at found
    next =>
      obtain ⟨vacant, _, rfl⟩ := Option.map_eq_some_iff.1 found
      obtain rfl : selection.item = item := Option.some.inj held
      exact Assignment.mem_firsts.2
        ⟨_, List.mem_append_right _ (List.mem_singleton_self _), rfl, rfl⟩
    next =>
      refine Assignment.mem_firsts_append (senior.held worker item ?_)
      rw [WorkerPool.itemOf?, found, Option.bind_some, held]
  · intro read
    have line := senior.lines read
    rw [assigned, Assignment.firsts_concat]
    have left : (turn.handOver selection).controller.queues.items read =
        if read = tier then rest else turn.controller.queues.items read := by
      rw [← AdmissionQueues.items_withItems turn.controller.queues tier read rest]
      exact congrArg (·.items read) served
    rw [left]
    by_cases same : read = tier
    · subst same
      rw [items] at line
      have servedLine := line.serve (distinct read)
      simpa [Turn.assignmentOf, own] using servedLine
    · have other : selection.item.tier ≠ read := fun equal => same (equal.symm.trans own)
      simpa [Turn.assignmentOf, other, same] using line

/-- What is handed out is served at the heads of the lines. -/
theorem Senior.assigns {items transit : Multiset WorkItem} (assigns : Assigns turn final)
    (senior : turn.Senior submitted requeued earlier) (keeps : turn.Keeps items transit)
    (distinct : ∀ tier, (submitted tier).Nodup) : final.Senior submitted requeued earlier := by
  induction assigns with
  | done => exact senior
  | handOver selected _ inductionHypothesis =>
      exact inductionHypothesis (senior.handOver distinct keeps.sorted selected)
        (keeps.handOver selected)

/-- The queues of a turn are those that it began with, and at their heads wait items that
the turn has put back. -/
def PutsBack (queues : AdmissionQueues) (turn : Turn) : Prop :=
  ∀ tier, ∃ front, turn.controller.queues.items tier = front ++ queues.items tier ∧
    ∀ item ∈ front, item.id ∈ turn.log.requeued

namespace PutsBack

variable {queues : AdmissionQueues}

/-- An item that is queued again goes to the front. -/
theorem requeueOrDrop (putsBack : turn.PutsBack queues) (item : WorkItem) :
    (turn.requeueOrDrop item).PutsBack queues := by
  unfold Turn.requeueOrDrop
  dsimp only
  split
  next next accepted =>
    intro tier
    obtain ⟨front, items, back⟩ := putsBack tier
    rw [AdmissionQueues.requeue?_eq_some accepted]
    dsimp only
    rw [AdmissionQueues.items_withItems]
    split
    next same =>
      subst same
      refine ⟨item :: front, by rw [items, List.cons_append], ?_⟩
      rintro other (_ | ⟨_, member⟩)
      · simp
      · exact List.mem_append_left _ (back other member)
    next => exact ⟨front, items, fun other member => List.mem_append_left _ (back other member)⟩
  next => exact putsBack

/-- The item of a late worker goes to the front. -/
theorem reclaimFault (putsBack : turn.PutsBack queues) (worker : WorkerId) :
    (turn.reclaimFault worker).PutsBack queues := by
  unfold Turn.reclaimFault
  dsimp only
  split
  · exact putsBack
  · split
    · exact putsBack
    · apply requeueOrDrop
      exact putsBack

/-- The item of an idled worker goes to the front. -/
theorem preempt (putsBack : turn.PutsBack queues) (worker : WorkerId) :
    (turn.preempt worker).PutsBack queues := by
  unfold Turn.preempt
  dsimp only
  split
  · exact putsBack
  · split
    · exact putsBack
    · apply requeueOrDrop
      exact putsBack

/-- Collecting queues nothing. -/
theorem collect (putsBack : turn.PutsBack queues) (snapshot : Snapshot) :
    (turn.collect snapshot).PutsBack queues :=
  List.foldlRecOn (motive := PutsBack queues) _ _ putsBack fun _ putsBack _ _ => putsBack

/-- The items of late workers go to the front. -/
theorem detectFaults (putsBack : turn.PutsBack queues) : turn.detectFaults.PutsBack queues :=
  List.foldlRecOn (motive := PutsBack queues) _ _ putsBack
    fun _ putsBack worker _ => putsBack.reclaimFault worker

/-- The items of excluded workers go to the front. -/
theorem applyHealth (putsBack : turn.PutsBack queues) (snapshot : Snapshot) :
    (turn.applyHealth snapshot).PutsBack queues :=
  List.foldlRecOn (motive := PutsBack queues) _ _ putsBack
    fun _ putsBack item _ => putsBack.requeueOrDrop item

/-- The items of workers over the cap go to the front. -/
theorem enforceCap (putsBack : turn.PutsBack queues) (snapshot : Snapshot) :
    (turn.enforceCap snapshot).PutsBack queues :=
  List.foldlRecOn (motive := PutsBack queues) _ _ putsBack
    fun _ putsBack worker _ => putsBack.preempt worker

/-- The adaptation leaves the queues alone. -/
theorem adapt (putsBack : turn.PutsBack queues) : turn.adapt.PutsBack queues := by
  unfold Turn.adapt
  dsimp only
  split <;> exact putsBack

end PutsBack

/-- The end of a round leaves the queues alone. -/
theorem items_report (turn : Turn) (tier : Tier) :
    turn.settleQuality.report.1.queues.items tier = turn.controller.queues.items tier :=
  rfl

end Turn

/-- The items of a tier that were submitted successfully, in the order of submission. -/
def History.submitted (history : History) (tier : Tier) : List WorkId :=
  (history.admitted.filter (·.tier = tier)).map (·.id)

/-- The items of a tier in the order in which they were handed out first. -/
def History.firstAssigned (history : History) (tier : Tier) : List WorkId :=
  Assignment.firsts history.assignments tier

/-- A step admits at most one more item. -/
theorem History.admitted_concat (history : History) (step : Step) :
    History.admitted (history ++ [step]) = history.admitted ++ step.admitted?.toList := by
  rw [History.admitted_append]
  cases admits : step.admitted? <;> simp [History.admitted, admits]

/-- A step submits at most one more item to a tier. -/
theorem History.submitted_concat (history : History) (step : Step) (tier : Tier) :
    History.submitted (history ++ [step]) tier =
      history.submitted tier ++ (step.admitted?.toList.filter (·.tier = tier)).map (·.id) := by
  rw [submitted, admitted_concat, List.filter_append, List.map_append, submitted]

namespace Controller

variable {controller : Controller} {history : History}

/-- The lines between two operations. -/
abbrev Senior (history : History) (controller : Controller) : Prop :=
  Seniority history.submitted history.requeued history.assignments controller.queues
    controller.pool

/-- No item is submitted twice. -/
theorem nodup_submitted (ledgered : Ledgered history controller) (tier : Tier) :
    (history.submitted tier).Nodup :=
  ledgered.distinct.sublist (List.filter_sublist.map _)

section Round

/-- Before it assigns items a round only puts items back into the queues. -/
theorem putsBack_selecting (controller : Controller) :
    controller.selecting.PutsBack controller.queues := by
  have settled : controller.settled.PutsBack controller.queues :=
    fun _ => ⟨[], rfl, by simp⟩
  exact (((settled.collect _).detectFaults.applyHealth _).enforceCap _).adapt

/-- What a round puts back was at work when it began. -/
theorem Mindful.atWork_of_requeued (mindful : controller.Mindful history) {item : WorkItem}
    (queued : item ∈ controller.selecting.controller.queues.contents)
    (requeued : item.id ∈ controller.selecting.log.requeued) :
    ∃ worker, controller.pool.itemOf? worker = some item := by
  have sound := mindful.ledgered.sound
  have departed : item.id ∈ controller.runRound.2.log.departed := by
    rw [sound.departed_runRound]
    exact List.mem_append_right _ (List.mem_append_left _ requeued)
  have works : item.id ∈ controller.pool.works := by
    rw [sound.works_runRound mindful.recalls mindful.ledgered.nodup_works]
    exact Multiset.mem_add.2 (.inr (Multiset.mem_coe.2 departed))
  obtain ⟨slot, present, same, holds, named⟩ := WorkerPool.mem_works.1 works
  have live : item ∈ controller.live := by
    refine sound.selecting.accounted.mem_of_live ?_
    rw [zero_add]
    exact Multiset.mem_add.2 (.inl queued)
  -- Both were live before the round, so the number tells that they are one item.
  obtain rfl : same = item :=
    Multiset.inj_on_of_nodup_map mindful.ledgered.distinct_live _
      (mem_live_of_holds present holds) _ live named
  obtain ⟨worker, found⟩ := List.getElem?_of_mem present
  exact ⟨worker, Option.bind_eq_some_iff.2 ⟨slot, found, holds⟩⟩

/-- A round keeps the seniority of the queues. -/
theorem Mindful.senior_runRound (mindful : controller.Mindful history)
    (senior : controller.Senior history) :
    controller.runRound.1.Senior (history ++ [controller.stepOf .round]) := by
  have sound := mindful.ledgered.sound
  -- All items that come back are in the queues before the first one is handed out.
  have selecting : controller.selecting.Senior history.submitted
      (history.requeued ++ controller.selecting.log.requeued) history.assignments := by
    rw [Turn.Senior, assignments_selecting, List.append_nil]
    have promoted : Seniority history.submitted history.requeued history.assignments
        controller.queues controller.pool.promote := by
      refine ⟨fun worker item holds => senior.held worker item ?_, senior.lines⟩
      rwa [WorkerPool.itemOf?_promote] at holds
    refine promoted.comeBack (fun tier => ?_) sound.selecting.sorted
      controller.frees_before_assigning
    obtain ⟨front, items, back⟩ := controller.putsBack_selecting tier
    refine ⟨front, items, fun item member => ⟨back item member, ?_⟩⟩
    have queued : item ∈ controller.selecting.controller.queues.contents := by
      refine AdmissionQueues.mem_contents.2 ⟨tier, ?_⟩
      rw [items]
      exact List.mem_append_left _ member
    obtain ⟨worker, holds⟩ := mindful.atWork_of_requeued queued (back item member)
    exact ⟨worker, by rwa [WorkerPool.itemOf?_promote]⟩
  have assigned := selecting.assigns (Turn.assignAll_assigns sound.selecting.sound)
    sound.selecting (nodup_submitted mindful.ledgered)
  have submitted : History.submitted (history ++ [controller.stepOf .round]) =
      history.submitted := by
    funext tier
    rw [History.submitted_concat]
    exact List.append_nil _
  have log : controller.runRound.2.log = controller.selecting.assignAll.log := by
    rw [runRound_eq, Turn.log_report]
  have requeued : controller.runRound.2.log.requeued = controller.selecting.log.requeued := by
    rw [sound.log_runRound]
  have items : ∀ tier, controller.runRound.1.queues.items tier =
      controller.selecting.assignAll.controller.queues.items tier := fun tier => by
    rw [runRound_eq, Turn.items_report]
  have reported : (controller.stepOf .round).requeued = controller.runRound.2.log.requeued ∧
      (controller.stepOf .round).assignments = controller.runRound.2.log.assignments := ⟨rfl, rfl⟩
  constructor
  · intro worker item holds
    rw [pool_runRound] at holds
    rw [History.assignments_concat, reported.2, log]
    exact assigned.held worker item holds
  · intro tier
    rw [submitted, History.requeued_concat, History.assignments_concat, reported.1, reported.2,
      requeued, log, items]
    exact assigned.lines tier

end Round

section Between

/-- Between two rounds items join the queues at the tails, or leave them. -/
theorem items_perform (controller : Controller) (operation : Operation)
    (between : operation ≠ .round) (tier : Tier) :
    ((controller.perform operation).1.queues.items tier).Sublist
      (controller.queues.items tier ++
        (controller.stepOf operation).admitted?.toList.filter (·.tier = tier)) := by
  cases operation with
  | round => exact absurd rfl between
  | submit payload written =>
      unfold stepOf Controller.perform submit
      dsimp only
      split
      next => exact List.sublist_append_left _ _
      next =>
        split
        next accepted =>
          rw [AdmissionQueues.enqueue_eq_ok accepted, AdmissionQueues.items_withItems]
          by_cases same : tier = written
          · subst same
            simp [Step.admitted?]
          · simp [same]
        next => exact List.sublist_append_left _ _
  | withdraw work =>
      unfold stepOf Controller.perform withdraw
      dsimp only
      split
      next => exact List.sublist_append_left _ _
      next item queues withdrawn =>
        obtain ⟨_, written, before, after, items, rfl⟩ :=
          AdmissionQueues.withdraw?_eq_some withdrawn
        refine List.Sublist.trans ?_ (List.sublist_append_left _ _)
        change ((controller.queues.withItems written (before ++ after)).items tier).Sublist _
        rw [AdmissionQueues.items_withItems]
        split
        next same =>
          rw [same, items]
          exact (List.sublist_cons_self item after).append_left before
        next => exact .refl _
  | drain =>
      obtain ⟨_, _, _, same⟩ := controller.drainWorkers_eq
      have kept : (controller.perform .drain).1.queues.items tier = controller.queues.items tier :=
        congrArg (·.queues.items tier) same
      rw [kept]
      exact List.sublist_append_left _ _
  | _ => exact List.sublist_append_left _ _

/-- Between rounds every operation keeps the seniority of the queues. -/
theorem Sound.senior_perform (sound : controller.Sound) (senior : controller.Senior history)
    (operation : Operation) (between : operation ≠ .round) :
    (controller.perform operation).1.Senior (history ++ [controller.stepOf operation]) := by
  have assigned := (stepOf_between controller between).2
  have requeued : (controller.stepOf operation).requeued = [] := by
    cases operation with
    | round => exact absurd rfl between
    | _ => rfl
  constructor
  · intro worker item holds
    rw [History.assignments_concat, assigned, List.append_nil]
    exact senior.held worker item ((sound.frees_perform operation between).itemOf? holds)
  · intro tier
    rw [History.submitted_concat, History.requeued_concat, History.assignments_concat, assigned,
      requeued, List.append_nil, List.append_nil]
    exact ((senior.lines tier).join _).sublist (items_perform controller operation between tier)

end Between

end Controller

namespace Lifetime

variable {config : Configuration} {history : History} {controller : Controller}

/-- Empty queues are in order of seniority. -/
theorem senior_start (config : Configuration) : (Controller.start config).Senior [] where
  held := by
    intro worker item holds
    obtain ⟨slot, found, held⟩ := Option.bind_eq_some_iff.1 holds
    obtain ⟨number, _, rfl⟩ := List.mem_map.1 (WorkerPool.mem_of_slot? found)
    cases held
  lines := by
    intro tier
    have empty : (Controller.start config).queues.items tier = [] := by
      cases tier <;> rfl
    rw [empty]
    exact .nil

/-- Throughout a lifetime the queues are in order of seniority. -/
theorem senior (lifetime : Lifetime config history controller) : controller.Senior history :=
  lifetime.invariant (motive := Controller.Senior) (senior_start config)
    (fun prior senior => prior.mindful.senior_runRound senior)
    fun operation between prior senior =>
      prior.ledgered.sound.senior_perform senior operation between

/-- Items are admitted in the order of their numbers, and rounds only go forward. -/
theorem pairwise_admitted (lifetime : Lifetime config history controller) :
    history.admitted.Pairwise fun earlier later =>
      earlier.id < later.id ∧ earlier.submittedRound ≤ later.submittedRound := by
  induction lifetime with
  | start => exact .nil
  | @step history before prior operation inductionHypothesis =>
      have mindful := prior.mindful
      rw [History.admitted_concat, List.pairwise_append]
      refine ⟨inductionHypothesis, ?_, ?_⟩
      · cases (before.stepOf operation).admitted? <;> simp
      · intro earlier old later new
        have admitted := Option.mem_toList.1 new
        obtain ⟨step, listed, admittedBefore⟩ := List.mem_filterMap.1 old
        rw [((mindful.ledgered.sound.perform operation).numbered later admitted).1,
          Step.submittedRound_of_admitted? admitted,
          Step.submittedRound_of_admitted? admittedBefore]
        exact ⟨mindful.ledgered.numbered earlier old, mindful.past step listed⟩

/-- Items are numbered in the order in which they are submitted. -/
theorem sorted_submitted (lifetime : Lifetime config history controller) (tier : Tier) :
    (history.submitted tier).Pairwise (· < ·) := by
  rw [History.submitted, List.pairwise_map]
  exact (lifetime.pairwise_admitted.imp And.left).sublist List.filter_sublist

/-- Of two admitted items the one with the smaller number was not submitted later. -/
theorem submittedRound_le (lifetime : Lifetime config history controller) {one other : WorkItem}
    (admitted : one ∈ history.admitted) (admittedToo : other ∈ history.admitted)
    (smaller : one.id < other.id) : one.submittedRound ≤ other.submittedRound := by
  have ordered := lifetime.pairwise_admitted
  have forward : history.admitted.Pairwise fun one other : WorkItem =>
      one.id < other.id → one.submittedRound ≤ other.submittedRound :=
    ordered.imp fun before _ => before.2
  have backward : history.admitted.Pairwise (flip fun one other : WorkItem =>
      one.id < other.id → one.submittedRound ≤ other.submittedRound) :=
    ordered.imp fun before after => absurd before.1 (Nat.lt_asymm after)
  exact forward.forall_of_forall_of_flip (fun _ _ _ => Nat.le_refl _) backward admitted
    admittedToo smaller

/-- An item of a tier is handed out as one of this tier. -/
theorem mem_firstAssigned (lifetime : Lifetime config history controller) {item : WorkItem}
    (admitted : item ∈ history.admitted) {assignment : Assignment}
    (assigned : assignment ∈ history.assignments) (named : assignment.work = item.id) :
    item.id ∈ history.firstAssigned item.tier := by
  have listed : assignment.work ∈ history.firstAssigned assignment.tier :=
    Assignment.mem_firsts.2 ⟨assignment, assigned, rfl, rfl⟩
  obtain ⟨_, waiting, _, _, ordered⟩ := lifetime.senior.lines assignment.tier
  have submitted := ordered.subset (List.mem_append_left _ listed)
  obtain ⟨same, present, equal⟩ := List.mem_map.1 submitted
  obtain ⟨admittedToo, own⟩ := List.mem_filter.1 present
  obtain rfl : same = item :=
    List.inj_on_of_nodup_map lifetime.ledgered.distinct admittedToo admitted (equal.trans named)
  rw [of_decide_eq_true own, ← named]
  exact listed

end Lifetime

/-- The queue of a tier: first the items that came back from workers, and then those that were
never handed out, oldest first. -/
structure LinesUp (history : History) (controller : Controller) (tier : Tier)
    (returned waiting : List WorkItem) : Prop where
  line : controller.queues.items tier = returned ++ waiting
  /-- What came back was handed out before. -/
  handedOut : ∀ item ∈ returned,
    (∃ assignment ∈ history.assignments, assignment.work = item.id) ∧ item.id ∈ history.requeued
  /-- What waits behind it never was. -/
  unassigned : ∀ item ∈ waiting, ∀ assignment ∈ history.assignments, assignment.work ≠ item.id
  ordered : waiting.Pairwise fun earlier later =>
    earlier.id < later.id ∧ earlier.submittedRound ≤ later.submittedRound
  /-- What came back is older than what waits behind it. -/
  behind : ∀ item ∈ returned, ∀ later ∈ waiting, item.id < later.id
  /-- What is at work is older too. -/
  atWork : ∀ worker item, controller.pool.itemOf? worker = some item → item.tier = tier →
    ∀ later ∈ waiting, item.id < later.id

/-- Every tier is first come, first served: its queue lines up, and its items were first
handed out in the order in which they were submitted. -/
theorem Lifetime.firstComeFirstServed {config : Configuration} {history : History}
    {controller : Controller} (lifetime : Lifetime config history controller) (tier : Tier) :
    (∃ returned waiting, LinesUp history controller tier returned waiting) ∧
      (history.firstAssigned tier).Sublist (history.submitted tier) := by
  obtain ⟨returned, waiting, line, back, ordered⟩ := lifetime.senior.lines tier
  have ascending := (lifetime.sorted_submitted tier).sublist ordered
  obtain ⟨_, waitingAscending, older⟩ := List.pairwise_append.1 ascending
  rw [List.pairwise_map] at waitingAscending
  have queued : ∀ item ∈ waiting, item ∈ history.admitted ∧ item.tier = tier := by
    intro item member
    have waits : item ∈ controller.queues.items tier := by
      rw [line]
      exact List.mem_append_right _ member
    have live : item ∈ controller.live :=
      Multiset.mem_add.2 (.inl (AdmissionQueues.mem_contents.2 ⟨tier, waits⟩))
    exact ⟨Multiset.mem_coe.1 (lifetime.ledgered.accounted.mem_of_live live),
      lifetime.ledgered.sound.queues waits⟩
  have behind : ∀ work ∈ history.firstAssigned tier, ∀ later ∈ waiting, work < later.id :=
    fun work listed later member => older work listed later.id (List.mem_map_of_mem member)
  refine ⟨⟨returned, waiting, line, ?_, ?_, ?_, ?_, ?_⟩, ?_⟩
  · intro item member
    obtain ⟨listed, requeued⟩ := back item member
    obtain ⟨assignment, assigned, _, named⟩ := Assignment.mem_firsts.1 listed
    exact ⟨⟨assignment, assigned, named⟩, requeued⟩
  · intro item member assignment assigned named
    obtain ⟨admitted, own⟩ := queued item member
    have listed := lifetime.mem_firstAssigned admitted assigned named
    rw [own] at listed
    exact Nat.lt_irrefl _ (behind item.id listed item member)
  · refine waitingAscending.imp_of_mem fun {earlier later} earlierWaits laterWaits smaller => ?_
    exact ⟨smaller, lifetime.submittedRound_le (queued earlier earlierWaits).1
      (queued later laterWaits).1 smaller⟩
  · exact fun item member => behind item.id (back item member).1
  · rintro worker item holds rfl
    exact behind item.id (lifetime.senior.held worker item holds)
  · exact (List.sublist_append_left _ _).trans ordered

/-- The number of a refused submission is used up. Of two items at work the first comes back
from an excluded worker: it waits before the items that were submitted after it. -/
theorem Lifetime.firstComeFirstServed_after_exclusion :
    let start := Controller.start { pool := { workers := 2 } }
    let operations : List Operation :=
      [.submit ⟨[1]⟩ .low, .submit ⟨[2]⟩ .low, .submit ⟨[]⟩ .low, .round,
        .submit ⟨[4]⟩ .low, .submit ⟨[5]⟩ .low, .receive (.health ⟨0, true, 0⟩), .round]
    let history := start.stepsOf operations
    let controller := start.after operations
    Lifetime { pool := { workers := 2 } } history controller ∧
      (controller.queues.items .low).map (·.id) = [1, 4, 5] ∧
      history.requeued = [1] ∧
      controller.pool.worksInFlight = [2] ∧
      history.firstAssigned .low = [1, 2] ∧
      ((∃ returned waiting, LinesUp history controller .low returned waiting) ∧
        (history.firstAssigned .low).Sublist (history.submitted .low)) := by
  intro start operations history controller
  have lifetime : Lifetime { pool := { workers := 2 } } history controller :=
    (Lifetime.start rfl).after operations
  refine ⟨lifetime, ?_, ?_, ?_, ?_, lifetime.firstComeFirstServed .low⟩ <;> decide +kernel

end PoolArbiter
