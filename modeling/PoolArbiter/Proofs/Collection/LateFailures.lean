import PoolArbiter.Proofs.Collection.Delivery
import PoolArbiter.Proofs.Collection.Integrity
import PoolArbiter.Proofs.Collection.RecentHits
import PoolArbiter.Proofs.Custody.Ledger

/-!
# Integrity failures are charged once

A hit whose verdict has failed is charged to its worker: when it completes, if the verdict
came before, and late otherwise. `Controller.integrityCharges` are the charges of a round,
each with its item. Over a whole lifetime no item is charged twice, and no late failure is
missed as long as the hit is among those published last.
-/

namespace PoolArbiter

section Ended

variable {history : History} {controller : Controller}

/-- The results of a step are among its records, in their order. -/
theorem Step.results_sublist (step : Step) :
    (step.results.map Record.finished).Sublist step.records := by
  unfold Step.results Step.records
  split
  next answered =>
    rw [answered]
    exact List.sublist_append_left _ _
  next => exact List.nil_sublist _

/-- The results of a history are among its records, in their order. -/
theorem History.results_sublist (history : History) :
    (history.results.map Record.finished).Sublist history.records := by
  unfold History.results History.records
  induction history with
  | nil => exact .slnil
  | cons step rest inductionHypothesis =>
      rw [List.flatMap_cons, List.flatMap_cons, List.map_append]
      exact step.results_sublist.append inductionHypothesis

/-- No item has two records. -/
theorem Ledgered.nodup_records (ledgered : Ledgered history controller) :
    (history.records.map Record.work).Nodup := by
  obtain ⟨ended, same, closed⟩ := ledgered.accounted
  have distinct : (Multiset.map (·.id) (history.admitted : Multiset WorkItem)).Nodup :=
    Multiset.coe_nodup.2 ledgered.distinct
  rw [same, Multiset.map_add, Multiset.nodup_add, ← Accounted.map_work_eq closed] at distinct
  exact Multiset.coe_nodup.1 distinct.2.1

/-- No item has two results. -/
theorem Ledgered.nodup_results (ledgered : Ledgered history controller) :
    (history.results.map (·.work)).Nodup := by
  have works := history.results_sublist.map Record.work
  rw [List.map_map] at works
  exact ledgered.nodup_records.sublist works

/-- An item with a result is not at work. -/
theorem Ledgered.not_mem_works (ledgered : Ledgered history controller) {work : WorkId}
    (ended : work ∈ history.results.map (·.work)) : work ∉ controller.pool.works := by
  intro works
  obtain ⟨result, published, rfl⟩ := List.mem_map.1 ended
  obtain ⟨slot, present, item, holds, named⟩ := WorkerPool.mem_works.1 works
  have live := Controller.mem_live_of_holds present holds
  have recorded := history.results_sublist.subset (List.mem_map_of_mem published)
  exact ledgered.accounted.work_ne (Multiset.coe_nodup.2 ledgered.distinct) item live _ recorded
    named.symm

end Ended

namespace Controller

variable {controller : Controller} {history : History} {charge : WorkId × WorkerId}
  {work : WorkId}

/-- The failed verdicts of the next round that are charged late. -/
def lateCharges (controller : Controller) : List (WorkId × WorkerId) :=
  (Snapshot.ofReports controller.feed).verdicts.entries.filterMap
    (controller.collector.charge? controller.pool.worksInFlight)

/-- The hits that are reported to the next round and whose verdict has failed. -/
def downgraded (controller : Controller) : List (WorkId × WorkerId) :=
  (controller.pool.slots.filter
    (·.isRejected controller.completions controller.pendingVerdict?)).filterMap fun slot =>
      slot.activeWork?.map (·, slot.id)

/-- The integrity failures that the next round charges, each with its item and its worker. -/
def integrityCharges (controller : Controller) : List (WorkId × WorkerId) :=
  controller.lateCharges ++ controller.downgraded

section Late

/-- A late charge is a rejection of a hit that was published recently and is not at work any more.
-/
theorem mem_lateCharges : charge ∈ controller.lateCharges ↔
    (Snapshot.ofReports controller.feed).verdicts.find? charge.1 = some false ∧
      charge.1 ∉ controller.pool.worksInFlight ∧
      controller.collector.recentHits.items.lookup charge.1 = some charge.2 := by
  simp only [lateCharges, List.mem_filterMap, Collector.charge?_eq_some]
  constructor
  · rintro ⟨_, listed, rfl, charged⟩
    exact ⟨KeyMap.mem_entries_iff.1 listed, charged⟩
  · rintro ⟨failed, charged⟩
    exact ⟨(charge.1, false), KeyMap.mem_entries_iff.2 failed, rfl, charged⟩

/-- No item is charged late twice in a round. -/
theorem nodup_lateCharges (controller : Controller) :
    (controller.lateCharges.map (·.1)).Nodup := by
  rw [lateCharges, List.Nodup, List.pairwise_map, List.pairwise_filterMap]
  refine (Snapshot.ofReports controller.feed).verdicts.distinct.imp ?_
  intro earlier later different first charged second chargedToo
  obtain ⟨rfl, _⟩ := Collector.charge?_eq_some.1 charged
  obtain ⟨rfl, _⟩ := Collector.charge?_eq_some.1 chargedToo
  exact different

/-- The round charges its late failures to the workers of these charges. -/
theorem late_settled (controller : Controller) :
    (controller.collector.recordVerdicts (Snapshot.ofReports controller.feed).verdicts
      controller.beginRound.controller.pool).2 = controller.lateCharges.map (·.2) := by
  rw [Collector.late_recordVerdicts, lateCharges, beginRound, WorkerPool.worksInFlight_promote]

end Late

section Downgraded

/-- The rejected items of a round are at work, in the order of their workers. -/
theorem downgraded_map_fst_sublist (controller : Controller) :
    (controller.downgraded.map (·.1)).Sublist controller.pool.worksInFlight := by
  have numbers : controller.downgraded.map (·.1) = (controller.pool.slots.filter
      (·.isRejected controller.completions controller.pendingVerdict?)).filterMap
        (·.activeWork?) := by
    rw [downgraded, List.map_filterMap]
    refine List.filterMap_congr fun slot _ => ?_
    cases slot.activeWork? <;> rfl
  rw [numbers, WorkerPool.worksInFlight]
  exact List.filter_sublist.filterMap _

/-- A hit is rejected only if a completion names the worker and its item. -/
theorem exists_completion_of_isRejected {slot : WorkerSlot} {completions : List Completion}
    {said : WorkId → Option Bool} (rejected : slot.isRejected completions said = true) :
    ∃ completion, slot.completion? completions = some completion ∧
      slot.activeWork? = some completion.work := by
  cases counts : slot.completion? completions with
  | none => simp [WorkerSlot.isRejected, counts] at rejected
  | some completion => exact ⟨completion, rfl, WorkerSlot.activeWork?_of_completion? counts⟩

/-- The workers of the rejected items are those whose hit is rejected. -/
theorem downgraded_map_snd (controller : Controller) :
    controller.downgraded.map (·.2) = (controller.pool.slots.filter
      (·.isRejected controller.completions controller.pendingVerdict?)).map (·.id) := by
  rw [downgraded, List.map_filterMap, ← List.filterMap_eq_map]
  refine List.filterMap_congr fun slot member => ?_
  obtain ⟨completion, _, works⟩ :=
    exists_completion_of_isRejected (List.mem_filter.1 member).2
  rw [works]
  rfl

/-- The round charges rejected hits to their workers. -/
theorem Sound.untrusted_settled (sound : controller.Sound)
    (distinct : controller.pool.works.Nodup) :
    (controller.settled.controller.collector.poll controller.completions
      controller.settled.controller.pool (controller.round + 1)).yield.untrusted.Perm
        (controller.downgraded.map (·.2)) := by
  have promoted : controller.pool.promote.works.Nodup := by rwa [WorkerPool.works_promote]
  obtain ⟨order, perm, _, untrusted⟩ := Collector.exists_order_poll sound.pool.promote promoted
    controller.settled.controller.collector controller.completions (controller.round + 1)
  have same : (controller.pool.promote.slots.filter
      (·.isRejected controller.completions controller.pendingVerdict?)).map (·.id) =
        controller.downgraded.map (·.2) := by
    rw [downgraded_map_snd, WorkerPool.promote, List.filter_map, List.map_map]
    have numbers : (fun slot : WorkerSlot => slot.id) ∘ WorkerSlot.promote = (·.id) := by
      funext slot
      have same := congrArg WorkerSlot.id slot.promote_eq
      exact same
    have rejected : (fun slot : WorkerSlot =>
        slot.isRejected controller.completions controller.pendingVerdict?) ∘ WorkerSlot.promote =
          (·.isRejected controller.completions controller.pendingVerdict?) := by
      funext slot
      exact slot.isRejected_promote _ _
    rw [numbers, rejected]
  rw [← same]
  refine List.Perm.trans (List.Perm.of_eq untrusted) ?_
  exact (perm.filter _).map _

/-- A rejected hit is published as exhausted. -/
theorem Mindful.exhausted_of_downgraded (mindful : controller.Mindful history)
    (downgraded : work ∈ controller.downgraded.map (·.1)) :
    ∃ result ∈ controller.runRound.2.log.results,
      result.work = work ∧ result.outcome.isFound = false := by
  obtain ⟨charge, listed, rfl⟩ := List.mem_map.1 downgraded
  obtain ⟨slot, member, charged⟩ := List.mem_filterMap.1 listed
  obtain ⟨present, rejected⟩ := List.mem_filter.1 member
  obtain ⟨completion, counts, works⟩ := exists_completion_of_isRejected rejected
  rw [works, Option.map_some, Option.some.injEq] at charged
  subst charged
  obtain ⟨item, _, holds, named, _⟩ :=
    (mindful.ledgered.sound.pool.slot present).holds_of_completion? counts
  have published := mindful.gatesHits.published slot present item completion holds counts
  rw [mindful.rejects_eq present, rejected, if_pos rfl] at published
  have listed := List.mem_singleton_self
    (item.result slot.id .exhausted (controller.round + 1))
  rw [← published] at listed
  exact ⟨_, List.mem_of_mem_filter listed, named, rfl⟩

end Downgraded

section Charging

variable {charged : List (WorkId × WorkerId)}

/-- Whether the item of a hit has not been charged. -/
def uncharged (charged : List (WorkId × WorkerId)) (hit : WorkId × WorkerId) : Bool :=
  !(charged.map (·.1)).contains hit.1

/-- A hit is uncharged if no charge names its item. -/
theorem uncharged_iff {hit : WorkId × WorkerId} :
    uncharged charged hit = true ↔ hit.1 ∉ charged.map (·.1) := by
  simp [uncharged]

/-- What was charged so far, against the history and the hits published last. -/
structure Charged (charged : List (WorkId × WorkerId)) (history : History)
    (controller : Controller) : Prop where
  once : (charged.map (·.1)).Nodup
  ended : ∀ work ∈ charged.map (·.1), work ∈ history.results.map (·.work)
  capacity : controller.collector.recentHits.capacity = Collector.recentHitCapacity
  retains : controller.collector.recentHits.Retains (WorkResult.hits history.results)
    (uncharged charged)

/-- A hit is the item of a result that was found. -/
theorem work_of_mem_hits {results : List WorkResult} {hit : WorkId × WorkerId}
    (member : hit ∈ WorkResult.hits results) :
    ∃ result ∈ results, result.outcome.isFound = true ∧ result.work = hit.1 := by
  obtain ⟨result, found, rfl⟩ := List.mem_map.1 member
  obtain ⟨published, isFound⟩ := List.mem_filter.1 found
  exact ⟨result, published, isFound, rfl⟩

/-- The number of a published hit tells its worker. -/
theorem hit_unique {results : List WorkResult} (distinct : (results.map (·.work)).Nodup)
    {hit other : WorkId × WorkerId} (member : hit ∈ WorkResult.hits results)
    (memberToo : other ∈ WorkResult.hits results) (same : hit.1 = other.1) : hit = other := by
  obtain ⟨result, found, rfl⟩ := List.mem_map.1 member
  obtain ⟨again, foundToo, rfl⟩ := List.mem_map.1 memberToo
  obtain rfl : result = again :=
    List.inj_on_of_nodup_map distinct (List.mem_of_mem_filter found)
      (List.mem_of_mem_filter foundToo) same
  rfl

/-- A hit that can be charged is published and has not been charged. -/
theorem Charged.recent (charges : controller.Charged charged history) {hit : WorkId × WorkerId}
    (recent : hit ∈ controller.collector.recentHits.items) :
    hit ∈ WorkResult.hits history.results ∧ hit.1 ∉ charged.map (·.1) := by
  obtain ⟨skipped, _, items⟩ := charges.retains
  rw [items, List.mem_filter, uncharged_iff] at recent
  exact ⟨List.mem_of_mem_drop recent.1, recent.2⟩

/-- A hit that was published recently has ended in a result. -/
theorem Charged.ended_of_recent (charges : controller.Charged charged history)
    {hit : WorkId × WorkerId} (recent : hit ∈ controller.collector.recentHits.items) :
    hit.1 ∈ history.results.map (·.work) := by
  obtain ⟨result, published, _, about⟩ := work_of_mem_hits (charges.recent recent).1
  exact List.mem_map.2 ⟨result, published, about⟩

/-- A late charge is one of a hit that was published recently. -/
theorem recent_of_late (late : charge ∈ controller.lateCharges) :
    charge ∈ controller.collector.recentHits.items := by
  obtain ⟨_, _, published⟩ := mem_lateCharges.1 late
  exact Collector.mem_recentHits published

/-- An item that is charged late has ended in a result. -/
theorem Charged.ended_of_late (charges : controller.Charged charged history)
    (late : work ∈ controller.lateCharges.map (·.1)) : work ∈ history.results.map (·.work) := by
  obtain ⟨charge, member, rfl⟩ := List.mem_map.1 late
  exact charges.ended_of_recent (recent_of_late member)

/-- An item that is rejected is at work. -/
theorem works_of_downgraded (sound : controller.Sound)
    (rejected : work ∈ controller.downgraded.map (·.1)) : work ∈ controller.pool.works :=
  sound.pool.mem_worksInFlight.1 (controller.downgraded_map_fst_sublist.subset rejected)

/-- An item is charged by the end of a round if it was before, late in this round or by a rejection
in it. -/
theorem mem_charges : work ∈ (charged ++ controller.integrityCharges).map (·.1) ↔
    work ∈ charged.map (·.1) ∨ work ∈ controller.lateCharges.map (·.1) ∨
      work ∈ controller.downgraded.map (·.1) := by
  rw [integrityCharges, List.map_append, List.map_append, List.mem_append, List.mem_append]

/-- No item is charged in a round that was charged before, nor twice in the round. -/
theorem Charged.once_integrityCharges (charges : controller.Charged charged history)
    (mindful : controller.Mindful history) :
    ((charged ++ controller.integrityCharges).map (·.1)).Nodup := by
  have ledgered := mindful.ledgered
  -- Late charges are about items with a result, those for rejected hits about items at work.
  have working : ∀ work ∈ controller.downgraded.map (·.1),
      work ∉ history.results.map (·.work) := fun work rejected ended =>
    ledgered.not_mem_works ended (works_of_downgraded ledgered.sound rejected)
  have downgraded : (controller.downgraded.map (·.1)).Nodup := by
    refine List.Sublist.nodup controller.downgraded_map_fst_sublist ?_
    rw [← Multiset.coe_nodup, ledgered.sound.pool.coe_worksInFlight]
    exact ledgered.nodup_works
  rw [integrityCharges, List.map_append, List.map_append, List.nodup_append, List.nodup_append]
  refine ⟨charges.once, ⟨controller.nodup_lateCharges, downgraded, ?_⟩, ?_⟩
  · rintro work late other rejected rfl
    exact working work rejected (charges.ended_of_late late)
  · rintro work before other now rfl
    rcases List.mem_append.1 now with late | rejected
    · obtain ⟨charge, member, rfl⟩ := List.mem_map.1 late
      exact (charges.recent (recent_of_late member)).2 before
    · exact working work rejected (charges.ended work before)

/-- Settling the verdicts keeps the recent hits that no rejection names. -/
theorem recentHits_settled (controller : Controller) :
    controller.settled.controller.collector.recentHits =
      controller.collector.recentHits.retain (Collector.spares controller.pool.worksInFlight
        (Snapshot.ofReports controller.feed).verdicts.entries) := by
  rw [← WorkerPool.worksInFlight_promote]
  exact Collector.recentHits_foldl_recordVerdict _ _

/-- A hit that was published recently is not at work. -/
theorem Charged.idle_of_recent (charges : controller.Charged charged history)
    (ledgered : Ledgered history controller) {hit : WorkId × WorkerId}
    (recent : hit ∈ controller.collector.recentHits.items) :
    hit.1 ∉ controller.pool.worksInFlight :=
  mt ledgered.sound.pool.mem_worksInFlight.1
    (ledgered.not_mem_works (charges.ended_of_recent recent))

/-- A hit that can be charged is charged late if and only if its verdict has failed. -/
theorem Charged.late_iff (charges : controller.Charged charged history)
    (ledgered : Ledgered history controller) {hit : WorkId × WorkerId}
    (recent : hit ∈ controller.collector.recentHits.items) :
    hit.1 ∈ controller.lateCharges.map (·.1) ↔
      (Snapshot.ofReports controller.feed).verdicts.find? hit.1 = some false := by
  constructor
  · intro late
    obtain ⟨charge, member, same⟩ := List.mem_map.1 late
    exact same ▸ (mem_lateCharges.1 member).1
  · intro failed
    have idle := charges.idle_of_recent ledgered recent
    obtain ⟨worker, published⟩ := Collector.exists_lookup_of_mem recent
    have late : (hit.1, worker) ∈ controller.lateCharges :=
      mem_lateCharges.2 ⟨failed, idle, published⟩
    exact List.mem_map.2 ⟨_, late, rfl⟩

/-- A recent hit is kept unless a verdict rejects it. -/
theorem spared_iff {inFlight : List WorkId} {verdicts : KeyMap WorkId Bool}
    {hit : WorkId × WorkerId} (idle : hit.1 ∉ inFlight) :
    Collector.spares inFlight verdicts.entries hit = true ↔ verdicts.find? hit.1 ≠ some false := by
  rw [Collector.spares_iff, KeyMap.mem_entries_iff]
  exact ⟨fun spared => spared.resolve_left idle, .inr⟩

/-- The verdicts of a round take the hits that it charges late, and no others. -/
theorem Charged.retains_settled (charges : controller.Charged charged history)
    (ledgered : Ledgered history controller) :
    controller.settled.controller.collector.recentHits.Retains (WorkResult.hits history.results)
      (uncharged (charged ++ controller.integrityCharges)) := by
  rw [recentHits_settled]
  refine charges.retains.retain (fun hit recent => ?_) fun hit stays => ?_
  · have idle := charges.idle_of_recent ledgered recent
    have working : hit.1 ∉ controller.downgraded.map (·.1) := fun rejected =>
      idle (controller.downgraded_map_fst_sublist.subset rejected)
    have fresh := (charges.recent recent).2
    rw [Bool.eq_iff_iff, spared_iff idle, uncharged_iff, mem_charges, Ne,
      ← charges.late_iff ledgered recent]
    simp [fresh, working]
  · rw [uncharged_iff, mem_charges, not_or] at stays
    exact uncharged_iff.2 stays.1

/-- The hits of a round are about items that were not charged before and are not now. -/
theorem Charged.uncharged_of_reported (charges : controller.Charged charged history)
    (mindful : controller.Mindful history) {hit : WorkId × WorkerId}
    (reported : hit ∈ WorkResult.hits controller.runRound.2.log.results) :
    uncharged (charged ++ controller.integrityCharges) hit = true := by
  obtain ⟨result, published, found, about⟩ := work_of_mem_hits reported
  obtain ⟨slot, item, present, holds, closes⟩ :=
    (mindful.ledgered.sound.results_runRound result published).held
  have works := mem_works_of_slot? present holds
  rw [← closes.1, about] at works
  have unended : hit.1 ∉ history.results.map (·.work) := fun ended =>
    mindful.ledgered.not_mem_works ended works
  rw [uncharged_iff, mem_charges]
  rintro (before | late | rejected)
  · exact unended (charges.ended _ before)
  · exact unended (charges.ended_of_late late)
  · -- An item has one result in a round, and that of a rejected hit is no hit.
    obtain ⟨other, publishedToo, aboutToo, exhausted⟩ := mindful.exhausted_of_downgraded rejected
    obtain rfl : result = other :=
      List.inj_on_of_nodup_map mindful.nodup_results published publishedToo
        (about.trans aboutToo.symm)
    rw [found] at exhausted
    cases exhausted

/-- A round keeps what was charged in order. -/
theorem Charged.runRound (charges : controller.Charged charged history)
    (mindful : controller.Mindful history) :
    controller.runRound.1.Charged (charged ++ controller.integrityCharges)
      (history ++ [controller.stepOf .round]) := by
  have sound := mindful.ledgered.sound
  have results : History.results (history ++ [controller.stepOf .round]) =
      history.results ++ controller.runRound.2.log.results := History.results_concat _ _
  refine ⟨charges.once_integrityCharges mindful, ?_, ?_, ?_⟩
  · intro work member
    rw [results, List.map_append, List.mem_append]
    rcases mem_charges.1 member with before | late | rejected
    · exact .inl (charges.ended work before)
    · exact .inl (charges.ended_of_late late)
    · obtain ⟨result, published, about, _⟩ := mindful.exhausted_of_downgraded rejected
      exact .inr (List.mem_map.2 ⟨result, published, about⟩)
  · rw [sound.pushes_runRound, Recent.capacity_foldl_push, recentHits_settled]
    exact charges.capacity
  · rw [sound.pushes_runRound, results, WorkResult.hits_append]
    exact (charges.retains_settled mindful.ledgered).foldl_push fun hit reported =>
      charges.uncharged_of_reported mindful reported

/-- Between two rounds nothing is charged. -/
theorem Charged.perform (charges : controller.Charged charged history) (operation : Operation)
    (between : operation ≠ .round) :
    (controller.perform operation).1.Charged charged
      (history ++ [controller.stepOf operation]) := by
  have books := congrArg Books.recentHits (controller.books_perform operation between)
  simp only [Controller.books] at books
  have results : History.results (history ++ [controller.stepOf operation]) = history.results := by
    rw [History.results_concat, (stepOf_between controller between).1, List.append_nil]
  refine ⟨charges.once, ?_, ?_, ?_⟩
  · rw [results]
    exact charges.ended
  · rw [books]
    exact charges.capacity
  · rw [books, results]
    exact charges.retains

end Charging

end Controller

namespace History

/-- The integrity failures that were charged in the rounds of a history. -/
def charges (history : History) (config : Configuration) : List (WorkId × WorkerId) :=
  ((Controller.start config).roundStarts (history.map (·.operation))).flatMap
    Controller.integrityCharges

/-- The hits published last, as many as can be remembered. -/
def lastHits (history : History) : List (WorkId × WorkerId) :=
  let published := WorkResult.hits history.results
  published.drop (published.length - Collector.recentHitCapacity)

end History

namespace Lifetime

variable {config : Configuration} {history : History} {controller : Controller}

/-- A round adds its charges to those of the history. -/
theorem charges_round (lifetime : Lifetime config history controller) :
    History.charges (history ++ [controller.stepOf .round]) config =
      history.charges config ++ controller.integrityCharges := by
  rw [History.charges, lifetime.starts_round, List.flatMap_append, List.flatMap_singleton,
    History.charges]

/-- Between the rounds nobody is charged. -/
theorem charges_between (lifetime : Lifetime config history controller) {operation : Operation}
    (between : operation ≠ .round) :
    History.charges (history ++ [controller.stepOf operation]) config = history.charges config := by
  rw [History.charges, lifetime.starts_between between, History.charges]

/-- A fresh controller has charged nobody. -/
theorem charged_start (config : Configuration) :
    (Controller.start config).Charged (History.charges [] config) [] where
  once := .nil
  ended := by simp [History.charges, Controller.roundStarts]
  capacity := rfl
  retains := ⟨0, Nat.zero_le _, rfl⟩

/-- Throughout a lifetime the charges are those that the history tells. -/
theorem charged (lifetime : Lifetime config history controller) :
    controller.Charged (history.charges config) history := by
  refine lifetime.invariant (motive := fun history controller =>
    controller.Charged (history.charges config) history) (charged_start config) ?_ ?_
  · intro history before prior charged
    rw [prior.charges_round]
    exact charged.runRound prior.mindful
  · intro history before operation between prior charged
    rw [prior.charges_between between]
    exact charged.perform operation between

end Lifetime

namespace Collector

variable {inFlight : List WorkId}

/-- Verdicts do not change how many hits are remembered. -/
theorem capacity_foldl_recordVerdict (verdicts : List (WorkId × Bool))
    (state : Collector × List WorkerId) :
    (verdicts.foldl (recordVerdict inFlight) state).1.recentHits.capacity =
      state.1.recentHits.capacity := by
  rw [recentHits_foldl_recordVerdict]
  rfl

end Collector

/-- What is charged in the next round of a controller, and what was charged before. -/
structure Controller.ChargesOnce (config : Configuration) (history : History)
    (controller : Controller) : Prop where
  /-- No item is charged twice, neither late nor when its hit completes. -/
  once : ((history.charges config ++ controller.integrityCharges).map (·.1)).Nodup
  /-- A failed verdict on a hit that was published last and was not charged is charged in the
  next round, once, to the worker that published the hit. -/
  due : ∀ work worker,
    (Snapshot.ofReports controller.feed).verdicts.find? work = some false →
      (work, worker) ∈ history.lastHits → work ∉ (history.charges config).map (·.1) →
        controller.lateCharges.filter (·.1 = work) = [(work, worker)]
  /-- Only published hits are charged late, to their own workers. -/
  published : ∀ charge ∈ controller.lateCharges, charge ∈ WorkResult.hits history.results
  /-- The workers that the verdicts of the round charge. -/
  late : (controller.collector.recordVerdicts (Snapshot.ofReports controller.feed).verdicts
    controller.beginRound.controller.pool).2 = controller.lateCharges.map (·.2)
  /-- The workers that the completions of the round charge. -/
  untrusted : (controller.settled.controller.collector.poll controller.completions
    controller.settled.controller.pool (controller.round + 1)).yield.untrusted.Perm
      (controller.downgraded.map (·.2))
  /-- These are the violations that the gate counts until the completions are in. -/
  counted : controller.collected.controller.gate =
    ((controller.gate.countViolations controller.lateCharges.length).1.countViolations
      controller.downgraded.length).1
  /-- Of the hits that can be charged late only those with a failed verdict are taken out. -/
  spared : controller.settled.controller.collector.recentHits.items =
    controller.collector.recentHits.items.filter fun hit =>
      (Snapshot.ofReports controller.feed).verdicts.find? hit.1 ≠ some false
  /-- However many verdicts and completions are taken in, these hits are no more than can be
  remembered. -/
  bounded : ∀ (inFlight : List WorkId) (verdicts : List (WorkId × Bool)) (pool : WorkerPool)
      (round : Round) (completions : List Completion),
    let settled := (verdicts.foldl (Collector.recordVerdict inFlight) (controller.collector, [])).1
    (completions.foldl (fun progress completion =>
      Collector.Progress.accept progress round completion)
        ⟨settled, pool, {}⟩).collector.recentHits.items.length ≤ Collector.recentHitCapacity

/-- Throughout a lifetime a failed verdict on a hit is charged at most once: when the hit
completes, or late to the worker that published it, as long as the hit is among those
published last. -/
theorem Lifetime.chargesOnce {config : Configuration} {history : History}
    {controller : Controller} (lifetime : Lifetime config history controller) :
    controller.ChargesOnce config history := by
  have mindful := lifetime.mindful
  have ledgered := mindful.ledgered
  have charges := lifetime.charged
  refine ⟨charges.once_integrityCharges mindful, ?_, ?_, controller.late_settled,
    ledgered.sound.untrusted_settled ledgered.nodup_works, ?_, ?_, ?_⟩
  · intro work worker failed last uncharged
    have recent : (work, worker) ∈ controller.collector.recentHits.items := by
      refine charges.retains.mem ?_ (Controller.uncharged_iff.2 uncharged)
      rw [charges.capacity]
      exact last
    obtain ⟨charge, late, named⟩ := List.mem_map.1 ((charges.late_iff ledgered recent).2 failed)
    obtain rfl : charge = (work, worker) :=
      Controller.hit_unique ledgered.nodup_results
        (charges.recent (Controller.recent_of_late late)).1 (charges.recent recent).1 named
    exact Controller.filter_key_eq controller.nodup_lateCharges late rfl
  · exact fun charge late => (charges.recent (Controller.recent_of_late late)).1
  · have settled : controller.settled.controller.gate =
        (controller.gate.countViolations controller.lateCharges.length).1 := by
      rw [← List.length_map (·.2), ← controller.late_settled]
      rfl
    have collected := congrArg Oversight.gate
      (ledgered.sound.oversight_collected ledgered.nodup_works)
    have rejected := congrArg List.length controller.downgraded_map_snd
    rw [List.length_map, List.length_map, ← List.countP_eq_length_filter] at rejected
    simp only [Turn.oversight, Oversight.of] at collected
    rw [collected, settled, rejected]
  · rw [Controller.recentHits_settled, Recent.items_retain]
    refine List.filter_congr fun hit recent => ?_
    rw [Bool.eq_iff_iff, Controller.spared_iff (charges.idle_of_recent ledgered recent),
      decide_eq_true_iff]
  · intro inFlight verdicts pool round completions settled
    have pushes := @Collector.pushes_foldl_accept settled.recentHits ⟨settled, pool, {}⟩
      completions round rfl
    rw [pushes]
    refine (Recent.length_le _).trans (Nat.le_of_eq ?_)
    rw [Recent.capacity_foldl_push, Collector.capacity_foldl_recordVerdict, charges.capacity]

/-- Of two hits the second was charged when it completed and the first was published. Then the
verdicts on both fail, and so does the one on a hit that is reported now: the first hit is
charged late to its worker, the second is not charged again, and the third one is charged
when it completes. -/
theorem Lifetime.chargesOnce_after_publication :
    let start := Controller.start { pool := { workers := 2 } }
    let operations : List Operation :=
      [.submit ⟨[1]⟩ .low, .submit ⟨[2]⟩ .low, .round, .receive (.verdict 2 false),
        .receive (.completion ⟨0, 1, .found [7], .ofFloat 0⟩),
        .receive (.completion ⟨1, 2, .found [8], .ofFloat 0⟩), .submit ⟨[3]⟩ .low, .round,
        .receive (.verdict 1 false), .receive (.verdict 2 false), .receive (.verdict 3 false),
        .receive (.completion ⟨0, 3, .found [9], .ofFloat 0⟩)]
    let history := start.stepsOf operations
    let controller := start.after operations
    Lifetime { pool := { workers := 2 } } history controller ∧
      history.charges { pool := { workers := 2 } } = [(2, 1)] ∧
      history.lastHits = [(1, 0)] ∧
      controller.lateCharges = [(1, 0)] ∧
      controller.downgraded = [(3, 0)] ∧
      controller.ChargesOnce { pool := { workers := 2 } } history := by
  intro start operations history controller
  have lifetime : Lifetime { pool := { workers := 2 } } history controller :=
    (Lifetime.start rfl).after operations
  refine ⟨lifetime, ?_, ?_, ?_, ?_, lifetime.chargesOnce⟩ <;> decide +kernel

end PoolArbiter
