import PoolArbiter.Proofs.Custody.Recall
import PoolArbiter.Proofs.Round.Books
import PoolArbiter.Proofs.Round.Named

/-!
# Hits that late verdicts are charged to

A verdict that comes late is charged to a worker only if the hit on its item is among
those published last. These are always some of the published hits, each once and in the
order of the reports: verdicts only take hits away, and a poll pushes those that it yields.
A full record loses its oldest item, whether or not items were taken out before:
`Recent.Retains` says that of the items published last none is missing but those.
-/

namespace PoolArbiter

/-- The hits among several results, each with its worker. -/
def WorkResult.hits (results : List WorkResult) : List (WorkId × WorkerId) :=
  (results.filter (·.outcome.isFound)).map fun result => (result.work, result.worker)

/-- The hits among several results are those of the parts. -/
theorem WorkResult.hits_append (first second : List WorkResult) :
    hits (first ++ second) = hits first ++ hits second := by
  simp [hits]

/-- A result is a hit if its outcome is one. -/
theorem WorkResult.hits_result (item : WorkItem) (worker : WorkerId) (outcome : Outcome)
    (round : Round) :
    hits [item.result worker outcome round] =
      if outcome.isFound then [(item.id, worker)] else [] := by
  unfold hits
  cases found : outcome.isFound <;> simp [WorkItem.result, found]

namespace Recent

variable {α : Type} {record : Recent α} {published : List α} {keep : α → Bool} {item : α}

/-- A record holds the kept ones of some published items, from some place on that is early
enough for the last of them, as many as the capacity. -/
def Retains (record : Recent α) (published : List α) (keep : α → Bool) : Prop :=
  ∃ skipped ≤ published.length - record.capacity,
    record.items = (published.drop skipped).filter keep

/-- Leaving out the first of the kept items is leaving out the first items. -/
theorem exists_drop_filter (published : List α) (keep : α → Bool) (count : Nat) :
    ∃ skipped ≤ published.length,
      (published.filter keep).drop count = (published.drop skipped).filter keep := by
  induction published generalizing count with
  | nil => exact ⟨0, Nat.le_refl _, by simp⟩
  | cons first rest inductionHypothesis =>
      cases count with
      | zero => exact ⟨0, Nat.zero_le _, rfl⟩
      | succ count =>
          by_cases kept : keep first = true
          · obtain ⟨skipped, inside, same⟩ := inductionHypothesis count
            refine ⟨skipped + 1, Nat.succ_le_succ inside, ?_⟩
            rw [List.filter_cons_of_pos kept, List.drop_succ_cons, List.drop_succ_cons, same]
          · obtain ⟨skipped, inside, same⟩ := inductionHypothesis (count + 1)
            refine ⟨skipped + 1, Nat.succ_le_succ inside, ?_⟩
            rw [List.filter_cons_of_neg kept, List.drop_succ_cons, same]

/-- A kept item that is published joins the record. The one that leaves a full record is old
enough: the others are as many as the capacity without it. -/
theorem Retains.push (retains : record.Retains published keep) (kept : keep item = true) :
    (record.push item).Retains (published ++ [item]) keep := by
  obtain ⟨skipped, early, items⟩ := retains
  have joined : ∀ place ≤ published.length,
      ((published ++ [item]).drop place).filter keep =
        (published.drop place).filter keep ++ [item] := by
    intro place inside
    rw [List.drop_append_of_le_length inside, List.filter_append,
      List.filter_cons_of_pos kept, List.filter_nil]
  by_cases room : record.items.length < record.capacity
  · refine ⟨skipped, ?_, ?_⟩
    · simp only [Recent.push, List.length_append, List.length_singleton]
      omega
    · have none : record.items.length + 1 - record.capacity = 0 := by omega
      rw [joined skipped (by omega), ← items]
      simp only [Recent.push, none, List.drop_zero]
  · obtain ⟨more, inside, same⟩ := exists_drop_filter (published.drop skipped) keep 1
    rw [List.length_drop] at inside
    rw [List.drop_drop] at same
    have full := record.length_le
    have positive := record.capacity_pos
    have one : record.items.length + 1 - record.capacity = 1 := by omega
    refine ⟨skipped + more, ?_, ?_⟩
    · -- What is left of a full record fits behind the place from which it is taken.
      have fits := List.length_filter_le keep (published.drop (skipped + more))
      rw [← same, ← items, List.length_drop, List.length_drop] at fits
      simp only [Recent.push, List.length_append, List.length_singleton]
      omega
    · rw [joined _ (by omega), ← same, ← items]
      simp only [Recent.push, one]

/-- A record that retains what was published does so after more was published. -/
theorem Retains.foldl_push (retains : record.Retains published keep) {joining : List α}
    (kept : ∀ item ∈ joining, keep item = true) :
    (joining.foldl Recent.push record).Retains (published ++ joining) keep := by
  induction joining generalizing record published with
  | nil =>
      rw [List.append_nil]
      exact retains
  | cons item rest inductionHypothesis =>
      have pushed := retains.push (kept item List.mem_cons_self)
      have later := inductionHypothesis pushed fun other member =>
        kept other (List.mem_cons_of_mem _ member)
      rwa [List.append_assoc] at later

/-- What is taken out is kept no more. -/
theorem Retains.retain (retains : record.Retains published keep) {spared kept : α → Bool}
    (same : ∀ item ∈ record.items, spared item = kept item)
    (fewer : ∀ item, kept item = true → keep item = true) :
    (record.retain spared).Retains published kept := by
  obtain ⟨skipped, early, items⟩ := retains
  refine ⟨skipped, early, ?_⟩
  rw [items_retain, List.filter_congr same, items, List.filter_filter]
  refine List.filter_congr fun item _ => ?_
  rw [Bool.eq_iff_iff, Bool.and_eq_true]
  exact ⟨And.left, fun stays => ⟨stays, fewer item stays⟩⟩

/-- None of the items published last is missing, unless it was taken out. -/
theorem Retains.mem (retains : record.Retains published keep)
    (recent : item ∈ published.drop (published.length - record.capacity))
    (kept : keep item = true) : item ∈ record.items := by
  obtain ⟨skipped, early, items⟩ := retains
  rw [items, List.mem_filter]
  refine ⟨?_, kept⟩
  have split : published.length - record.capacity =
      skipped + (published.length - record.capacity - skipped) := by omega
  rw [split, ← List.drop_drop] at recent
  exact List.mem_of_mem_drop recent

/-- Recording does not change how much is remembered. -/
theorem capacity_foldl_push (joining : List α) (record : Recent α) :
    (joining.foldl push record).capacity = record.capacity :=
  List.foldlRecOn (motive := fun later : Recent α => later.capacity = record.capacity)
    joining push rfl fun _ same _ _ => same

/-- What is pushed joins at the end, and some may leave. -/
theorem items_foldl_push (joining : List α) (record : Recent α) :
    (joining.foldl push record).items.Sublist (record.items ++ joining) := by
  induction joining generalizing record with
  | nil => exact List.sublist_append_left _ _
  | cons item rest inductionHypothesis =>
      have pushed : (record.push item).items.Sublist (record.items ++ [item]) :=
        (List.drop_sublist _ _).append_right _
      have later := (inductionHypothesis (record.push item)).trans (pushed.append_right rest)
      rwa [List.append_assoc] at later

end Recent

namespace Collector

/-- Verdicts add no hits to those published last. -/
theorem recentHits_recordVerdicts (collector : Collector) (verdicts : KeyMap WorkId Bool)
    (pool : WorkerPool) :
    (collector.recordVerdicts verdicts pool).1.recentHits.items.Sublist
      collector.recentHits.items := by
  rw [recordVerdicts, recentHits_foldl_recordVerdict, Recent.items_retain]
  exact List.filter_sublist

/-- A completion pushes the hit that it yields. -/
theorem pushes_accept {record : Recent (WorkId × WorkerId)} {progress : Progress}
    (pushes : progress.collector.recentHits =
      (WorkResult.hits progress.yield.results).foldl Recent.push record)
    (round : Round) (completion : Completion) :
    (progress.accept round completion).collector.recentHits =
      (WorkResult.hits (progress.accept round completion).yield.results).foldl Recent.push
        record := by
  unfold Progress.accept
  split
  next => exact pushes
  next =>
    dsimp only
    rw [WorkResult.hits_append, List.foldl_append, ← pushes, WorkResult.hits_result]
    split <;> rfl

/-- Completions push the hits that they yield, in their order. -/
theorem pushes_foldl_accept {record : Recent (WorkId × WorkerId)} {progress : Progress}
    (completions : List Completion) (round : Round)
    (pushes : progress.collector.recentHits =
      (WorkResult.hits progress.yield.results).foldl Recent.push record) :
    let polled := completions.foldl (fun progress completion =>
      Progress.accept progress round completion) progress
    polled.collector.recentHits =
      (WorkResult.hits polled.yield.results).foldl Recent.push record :=
  List.foldlRecOn (motive := fun progress : Progress => progress.collector.recentHits =
    (WorkResult.hits progress.yield.results).foldl Recent.push record) completions _ pushes
    fun _ pushes completion _ => pushes_accept pushes round completion

/-- A poll records its hits, in the order of its results. -/
theorem pushes_poll (collector : Collector) (completions : List Completion) (pool : WorkerPool)
    (round : Round) :
    (collector.poll completions pool round).collector.recentHits =
      (WorkResult.hits (collector.poll completions pool round).yield.results).foldl Recent.push
        collector.recentHits := by
  unfold poll
  split
  · rfl
  · exact pushes_foldl_accept _ round rfl

end Collector

namespace Controller

variable {controller : Controller} {history : History}

/-- After its verdicts a round pushes the hits that it reports. -/
theorem Sound.pushes_runRound (sound : controller.Sound) :
    controller.runRound.1.collector.recentHits =
      (WorkResult.hits controller.runRound.2.log.results).foldl Recent.push
        controller.settled.controller.collector.recentHits := by
  have kept := congrArg Books.recentHits sound.books_runRound
  have polled := congrArg Books.recentHits
    (Turn.books_collect controller.settled (Snapshot.ofReports controller.feed))
  have collected := congrArg RoundLog.Findings.results
    (Turn.findings_collect controller.settled (Snapshot.ofReports controller.feed))
  have reported : WorkResult.hits controller.runRound.2.log.results =
      WorkResult.hits controller.collected.log.results := by
    rw [WorkResult.hits, sound.found_runRound, WorkResult.hits]
  simp only [Turn.books, books] at kept polled
  simp only [RoundLog.findings] at collected
  rw [kept, reported, Controller.collected, ← settled, polled, collected]
  exact Collector.pushes_poll _ _ _ _

/-- A round adds the hits that it reports to those published last, and some may leave. -/
theorem Sound.recentHits_runRound (sound : controller.Sound) :
    controller.runRound.1.collector.recentHits.items.Sublist
      (controller.collector.recentHits.items ++
        WorkResult.hits controller.runRound.2.log.results) := by
  rw [sound.pushes_runRound]
  refine (Recent.items_foldl_push _ _).trans (List.Sublist.append_right ?_ _)
  exact Collector.recentHits_recordVerdicts _ _ _

end Controller

/-- The hits published last are some of those in the reports, in their order. -/
theorem Lifetime.recentHits {config : Configuration} {history : History}
    {controller : Controller} (lifetime : Lifetime config history controller) :
    controller.collector.recentHits.items.Sublist (WorkResult.hits history.results) := by
  refine lifetime.invariant (motive := fun history controller =>
    controller.collector.recentHits.items.Sublist (WorkResult.hits history.results))
    (List.nil_sublist _) ?_ ?_
  · intro history before prior earlier
    rw [History.results_concat, WorkResult.hits_append]
    have published := prior.ledgered.sound.recentHits_runRound
    exact published.trans (earlier.append (List.Sublist.refl _))
  · intro history before operation between prior earlier
    have same := congrArg Books.recentHits (before.books_perform operation between)
    simp only [Controller.books] at same
    rw [same, History.results_concat, WorkResult.hits_append]
    exact earlier.trans (List.sublist_append_left _ _)

end PoolArbiter
