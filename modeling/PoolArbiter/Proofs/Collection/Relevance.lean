import PoolArbiter.Proofs.Collection.Delivery
import PoolArbiter.Proofs.Trust.Violations

/-!
# Reports that nobody heeds

Workers may report anything: items that were taken back, withdrawn or finished, items of
other workers, and workers that do not exist. `Controller.heeds` says which reports a
round heeds, from the state when the round starts, and `Controller.runRound_filter_heeds`
says that the others change nothing. What carries the proof for completions is that
nothing is handed out before all of them are in, so an item that is not at work when the
round starts is at work for none of them.
-/

namespace PoolArbiter

namespace KeyMap

variable {κ β : Type} [DecidableEq κ]

/-- Leaving out writes to some keys does not change the last value under the others. -/
theorem lastValue?_filter (writes : List (κ × β)) (keep : κ → Bool) (key : κ) :
    lastValue? (writes.filter fun write => keep write.1) key =
      if keep key then lastValue? writes key else none := by
  unfold lastValue?
  rw [List.filterMap_filter]
  split
  next kept =>
    congr 2
    funext write
    by_cases same : write.1 = key <;> simp [same, kept]
  next dropped =>
    rw [List.getLast?_eq_none_iff, List.filterMap_eq_nil_iff]
    intro write _
    by_cases same : write.1 = key
    · simp [same, dropped]
    · simp [same]

/-- The map of the writes to some keys is the map of all writes, cut down to these keys. -/
theorem ofList_filter [LT κ] [LE κ] [Std.LawfulOrderLT κ] [DecidableLT κ] [Std.IsLinearOrder κ]
    (writes : List (κ × β)) (keep : κ → Bool) :
    ofList (writes.filter fun write => keep write.1) =
      (ofList writes).filter fun key _ => keep key :=
  ext_find? fun key => by
    rw [find?_ofList, lastValue?_filter, find?_filter, find?_ofList]
    cases keep key <;> cases lastValue? writes key <;> simp [Option.filter]

end KeyMap

namespace Collector

variable {collector : Collector} {keep : WorkId → Bool} {pool : WorkerPool} {round : Round}

section Settling

/-- Verdicts on items that are neither at work nor hits published last change nothing and
are not charged. -/
theorem recordVerdicts_filter (verdicts : KeyMap WorkId Bool)
    (working : ∀ work ∈ pool.worksInFlight, keep work = true)
    (published : ∀ hit ∈ collector.recentHits.items, keep hit.1 = true) :
    (collector.recordVerdicts (verdicts.filter fun work _ => keep work) pool).1 =
        (collector.recordVerdicts verdicts pool).1 ∧
      (collector.recordVerdicts (verdicts.filter fun work _ => keep work) pool).2.length =
        (collector.recordVerdicts verdicts pool).2.length := by
  constructor
  · have kept :
        (collector.recordVerdicts (verdicts.filter fun work _ => keep work) pool).1.verdicts =
          (collector.recordVerdicts verdicts pool).1.verdicts := by
      refine KeyMap.ext_find? fun work => ?_
      rw [find?_recordVerdicts, find?_recordVerdicts, KeyMap.find?_filter]
      split
      next inFlight =>
        rw [working work inFlight]
        cases verdicts.find? work <;> rfl
      next => rfl
    have hits : collector.recentHits.retain (spares pool.worksInFlight
          (verdicts.filter fun work _ => keep work).entries) =
        collector.recentHits.retain (spares pool.worksInFlight verdicts.entries) := by
      refine Recent.retain_congr fun hit member => ?_
      rw [Bool.eq_iff_iff, spares_iff, spares_iff, KeyMap.filter, List.mem_filter,
        published hit member]
      simp
    unfold recordVerdicts at kept ⊢
    rw [foldl_recordVerdict_eq, foldl_recordVerdict_eq verdicts.entries, kept, hits]
  · rw [length_recordVerdicts, length_recordVerdicts, KeyMap.filter, List.countP_filter]
    refine List.countP_congr fun verdict _ => ?_
    have relevant : collector.charges pool.worksInFlight verdict = true →
        keep verdict.1 = true := by
      intro charged
      simp only [charges, Bool.and_eq_true, Option.isSome_iff_exists] at charged
      obtain ⟨_, worker, found⟩ := charged
      exact published (verdict.1, worker) (mem_recentHits found)
    simpa using relevant

end Settling

section Polling

/-- A completion that names no item at work does not count. -/
theorem Progress.counted_accept_of_unheld {progress : Progress} {completion : Completion}
    (unheld : heldItem? progress.pool completion = none) :
    (progress.accept round completion).counted = progress.counted := by
  unfold accept
  rw [unheld]
  rfl

/-- A completion that counts names the item that is held. -/
theorem named_of_heldItem? {completion : Completion} {slot : WorkerSlot} {item : WorkItem}
    (counts : heldItem? pool completion = some (slot, item)) : item.id = completion.work := by
  simp only [heldItem?, Option.bind_eq_bind, Option.bind_eq_some_iff,
    Option.ite_none_right_eq_some, Option.some.injEq, Prod.mk.injEq] at counts
  obtain ⟨_, _, _, _, named, rfl, rfl⟩ := counts
  simp only [Bool.and_eq_true, beq_iff_eq] at named
  exact named.2

/-- A completion that names no item at work still names none when slots were freed. -/
theorem heldItem?_of_frees {before after : WorkerPool} (frees : before.Frees after)
    {completion : Completion} (unheld : (before.slot? completion.worker).any
      (·.activeWork? == some completion.work) = false) :
    heldItem? after completion = none := by
  rw [Option.eq_none_iff_forall_ne_some]
  rintro ⟨slot, item⟩ counts
  obtain ⟨found, holds, active⟩ := Turn.heldItem?_eq_some counts
  obtain ⟨earlier, present, freed⟩ := frees.slot found
  obtain rfl := freed.eq_of_isActive active
  have named : item.id = completion.work := named_of_heldItem? counts
  simp [present, WorkerSlot.activeWork?, active, holds, named] at unheld

/-- Completions that name no item at work do not matter for a poll. -/
theorem Progress.counted_foldl_filter {keep : Completion → Bool} {before : WorkerPool}
    (unheld : ∀ completion, keep completion = false → ∀ after, before.Frees after →
      heldItem? after completion = none)
    (completions : List Completion) {progress : Progress} (frees : before.Frees progress.pool) :
    ((completions.filter keep).foldl
        (fun progress completion => Progress.accept progress round completion)
        progress).counted =
      (completions.foldl
        (fun progress completion => Progress.accept progress round completion)
        progress).counted := by
  induction completions generalizing progress with
  | nil => rfl
  | cons completion rest inductionHypothesis =>
      have freesLater := frees.trans (WorkerPool.frees_accept progress round completion)
      rw [List.filter_cons, List.foldl_cons]
      split
      next => exact inductionHypothesis freesLater
      next skipped =>
        -- Accepting completions only frees slots, so one that named no item at first never does.
        have idle := unheld completion (by simpa using skipped) progress.pool frees
        rw [← inductionHypothesis freesLater]
        exact counted_foldl _ (counted_accept_of_unheld idle).symm

/-- Leaving out completions does not change the order of the others. -/
theorem inServiceOrder_filter (cursor : Option WorkerId) (size : Nat)
    (completions : List Completion) (keep : Completion → Bool) :
    inServiceOrder cursor size (completions.filter keep) =
      (inServiceOrder cursor size completions).filter keep := by
  unfold inServiceOrder
  rw [List.filter_flatMap]
  congr 1
  funext worker
  rw [List.filter_filter, List.filter_filter]
  exact List.filter_congr fun completion _ => Bool.and_comm _ _

/-- Completions that name no item at work do not change what a poll counts. -/
theorem counted_poll_filter {keep : Completion → Bool}
    (unheld : ∀ completion, keep completion = false →
      (pool.slot? completion.worker).any (·.activeWork? == some completion.work) = false)
    (collector : Collector) (completions : List Completion) (round : Round) :
    (collector.poll (completions.filter keep) pool round).counted =
      (collector.poll completions pool round).counted := by
  have unheldLater : ∀ completion, keep completion = false → ∀ after, pool.Frees after →
      heldItem? after completion = none := fun completion skipped _ frees =>
    heldItem?_of_frees frees (unheld completion skipped)
  rw [counted_poll, counted_poll, inServiceOrder_filter,
    Progress.counted_foldl_filter unheldLater _ (.refl pool)]

end Polling

end Collector

namespace TrustGate

/-- Reports on workers that do not exist change nothing. -/
theorem applyReports_filter (gate : TrustGate) (pool : WorkerPool) (reports : List HealthReport) :
    gate.applyReports pool (reports.filter fun report => report.worker < pool.size) =
      gate.applyReports pool reports := by
  have kept : ∀ progress : Progress, progress.pool.size = pool.size →
      (reports.filter fun report => report.worker < pool.size).foldl Progress.applyReport progress =
        reports.foldl Progress.applyReport progress := by
    induction reports with
    | nil => exact fun _ _ => rfl
    | cons report rest inductionHypothesis =>
        intro progress size
        have sizeLater : (progress.applyReport report).pool.size = pool.size :=
          (WorkerPool.size_eq_of_layout
            (WorkerPool.frees_applyReport progress report).layout).trans size
        rw [List.filter_cons, List.foldl_cons]
        split
        next => exact inductionHypothesis _ sizeLater
        next outside =>
          have missing : progress.pool.slot? report.worker = none := by
            apply List.getElem?_eq_none
            rw [← WorkerPool.size, size]
            simpa using outside
          have same : progress.applyReport report = progress := by
            unfold Progress.applyReport
            rw [missing]
          rw [same]
          exact inductionHypothesis _ size
  exact kept _ rfl

end TrustGate

namespace Controller

variable (controller : Controller)

/-- Whether a round heeds a verdict on an item: the item is at work, or it is a hit that a
late verdict can still be charged to. -/
def judges (work : WorkId) : Bool :=
  controller.pool.worksInFlight.contains work ||
    controller.collector.recentHits.items.any (·.1 == work)

/-- Whether a round heeds a report, as things stand when the round starts: a completion names
the item at work in the slot of its worker, a health report is on a worker that exists, and
a verdict is on an item that the round judges. -/
def heeds : Report → Bool
  | .completion brought =>
      (controller.pool.slot? brought.worker).any (·.activeWork? == some brought.work)
  | .health brought => brought.worker < controller.pool.size
  | .sensor _ => true
  | .verdict work _ => controller.judges work

end Controller

namespace Report

/-- What the kept reports of one kind bring. -/
theorem filterMap_filter {α : Type} {bring? : Report → Option α} {make : α → Report}
    (made : ∀ report brought, bring? report = some brought → report = make brought)
    (keep : Report → Bool) (feed : List Report) :
    (feed.filter keep).filterMap bring? =
      (feed.filterMap bring?).filter fun brought => keep (make brought) := by
  rw [List.filterMap_filter, List.filter_filterMap]
  refine List.filterMap_congr fun report _ => ?_
  cases brings : bring? report with
  | none => simp
  | some brought =>
      obtain rfl := made report brought brings
      simp [Option.filter]

/-- A report that brings a completion is this completion. -/
theorem eq_of_completion? (report : Report) (brought : Completion)
    (brings : report.completion? = some brought) : report = .completion brought := by
  cases report <;> cases brings
  rfl

/-- A report that brings a health report is this report. -/
theorem eq_of_health? (report : Report) (brought : HealthReport)
    (brings : report.health? = some brought) : report = .health brought := by
  cases report <;> cases brings
  rfl

/-- A report that brings a reading is this reading. -/
theorem eq_of_sensor? (report : Report) (brought : SensorReading)
    (brings : report.sensor? = some brought) : report = .sensor brought := by
  cases report <;> cases brings
  rfl

/-- A report that brings a verdict is this verdict. -/
theorem eq_of_verdict? (report : Report) (brought : WorkId × Bool)
    (brings : report.verdict? = some brought) : report = .verdict brought.1 brought.2 := by
  cases report <;> cases brings
  rfl

end Report

namespace Controller

variable (controller : Controller) (feed : List Report)

section Snapshots

/-- Of the completions those remain that the controller heeds. -/
theorem completions_filter_heeds :
    (Snapshot.ofReports (feed.filter controller.heeds)).completions =
      (Snapshot.ofReports feed).completions.filter fun brought =>
        controller.heeds (.completion brought) :=
  Report.filterMap_filter Report.eq_of_completion? _ _

/-- All health reports that are heeded remain. -/
theorem health_filter_heeds :
    (Snapshot.ofReports (feed.filter controller.heeds)).health =
      (Snapshot.ofReports feed).health.filter fun brought =>
        brought.worker < controller.pool.size :=
  Report.filterMap_filter Report.eq_of_health? _ _

/-- The last reading remains. -/
theorem sensor_filter_heeds :
    (Snapshot.ofReports (feed.filter controller.heeds)).sensor =
      (Snapshot.ofReports feed).sensor := by
  have kept : (feed.filter controller.heeds).filterMap Report.sensor? =
      feed.filterMap Report.sensor? := by
    rw [Report.filterMap_filter Report.eq_of_sensor?]
    exact List.filter_eq_self.2 fun _ _ => rfl
  exact congrArg List.getLast? kept

/-- Of the verdicts those remain that the controller judges by. -/
theorem verdicts_filter_heeds :
    (Snapshot.ofReports (feed.filter controller.heeds)).verdicts =
      (Snapshot.ofReports feed).verdicts.filter fun work _ => controller.judges work := by
  have kept : (feed.filter controller.heeds).filterMap Report.verdict? =
      (feed.filterMap Report.verdict?).filter fun brought => controller.judges brought.1 :=
    Report.filterMap_filter Report.eq_of_verdict? _ _
  have maps := KeyMap.ofList_filter (feed.filterMap Report.verdict?) controller.judges
  rw [← kept] at maps
  exact maps

end Snapshots

section Phases

/-- Reports that are not heeded do not change how verdicts are settled. -/
theorem settleVerdicts_filter_heeds :
    controller.beginRound.settleVerdicts (.ofReports (feed.filter controller.heeds)) =
      controller.beginRound.settleVerdicts (.ofReports feed) := by
  have working : ∀ work ∈ controller.beginRound.controller.pool.worksInFlight,
      controller.judges work = true := by
    intro work member
    rw [beginRound, WorkerPool.worksInFlight_promote] at member
    simp [judges, member]
  have published : ∀ hit ∈ controller.beginRound.controller.collector.recentHits.items,
      controller.judges hit.1 = true := by
    rintro ⟨work, worker⟩ member
    simp only [judges, Bool.or_eq_true, List.any_eq_true, beq_iff_eq]
    exact .inr ⟨_, member, rfl⟩
  obtain ⟨collector, late⟩ := Collector.recordVerdicts_filter (Snapshot.ofReports feed).verdicts
    working published
  unfold Turn.settleVerdicts Turn.countViolations
  dsimp only
  rw [verdicts_filter_heeds, collector, late]

/-- The item of a worker at work is known from the start of the round. -/
theorem unheld_of_unheeded (completion : Completion)
    (unheeded : controller.heeds (.completion completion) = false) :
    (controller.pool.promote.slot? completion.worker).any
      (·.activeWork? == some completion.work) = false := by
  rw [WorkerPool.slot?_promote, Option.any_map]
  simpa [heeds, Function.comp_def, WorkerSlot.activeWork?_promote] using unheeded

/-- Reports that are not heeded do not change what is collected. -/
theorem collected_filter_heeds :
    { controller with feed := feed.filter controller.heeds }.collected =
      { controller with feed := feed }.collected := by
  have settled := controller.settleVerdicts_filter_heeds feed
  let turn := controller.beginRound.settleVerdicts (.ofReports feed)
  have polled := Collector.counted_poll_filter controller.unheld_of_unheeded
    turn.controller.collector (Snapshot.ofReports feed).completions turn.controller.round
  calc
    (controller.beginRound.settleVerdicts (.ofReports (feed.filter controller.heeds))).collect
        (.ofReports (feed.filter controller.heeds)) =
      turn.collect (.ofReports (feed.filter controller.heeds)) := by rw [settled]
    _ = turn.collect (.ofReports feed) := by
      rw [Turn.collect_eq, Turn.collect_eq, completions_filter_heeds]
      exact congrArg turn.absorb polled

/-- Reports that are not heeded do not change who is past the time. -/
theorem inspected_filter_heeds :
    { controller with feed := feed.filter controller.heeds }.inspected =
      { controller with feed := feed }.inspected :=
  congrArg Turn.detectFaults (controller.collected_filter_heeds feed)

/-- Reports that are not heeded do not change who is excluded. -/
theorem vetted_filter_heeds :
    { controller with feed := feed.filter controller.heeds }.vetted =
      { controller with feed := feed }.vetted := by
  have size : { controller with feed := feed }.inspected.controller.pool.size =
      controller.pool.size := size_inspected _
  have reports := controller.health_filter_heeds feed
  rw [← size] at reports
  rw [vetted, inspected_filter_heeds, vetted]
  unfold Turn.applyHealth
  rw [reports, TrustGate.applyReports_filter]

/-- A round that is given only the reports that it heeds makes the same report and the same
state as one that is given them all. -/
theorem runRound_filter_heeds :
    { controller with feed := feed.filter controller.heeds }.runRound =
      { controller with feed := feed }.runRound := by
  have capped : ∀ turn : Turn, turn.enforceCap (.ofReports (feed.filter controller.heeds)) =
      turn.enforceCap (.ofReports feed) := fun turn => by
    unfold Turn.enforceCap
    rw [sensor_filter_heeds]
  rw [runRound_eq, selecting, vetted_filter_heeds, capped, ← selecting, ← runRound_eq]

/-- After a drain nothing is heeded of the item that was at work, and nothing of a worker
that does not exist. -/
example :
    let drained := (Controller.start { pool := { workers := 1 } }).after
      [.submit ⟨[1]⟩ .low, .round, .drain]
    let reports : List Report :=
      [.completion ⟨0, 1, .found [7], .ofFloat 0⟩, .verdict 1 false, .health ⟨1, true, 0⟩]
    reports.any drained.heeds = false := by
  decide +kernel

end Phases

end Controller

end PoolArbiter
