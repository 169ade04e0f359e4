import PoolArbiter.Proofs.Round.Oversight
import PoolArbiter.Proofs.Termination.Allowance

/-!
# What is outstanding through a round

A worker past its time has used up an attempt, so taking its item back adds
nothing to what is outstanding, although the item may be queued again. All other
phases shrink the tasks, unless a tampered worker is excluded or a worker above
the cap gives its item back to the queues.
-/

namespace PoolArbiter

namespace Turn

/-- A turn shrinks to another one. -/
abbrev ShrinksTo (before after : Turn) : Prop :=
  Shrinks before.controller before.log.records after.controller after.log.records

variable {turn : Turn} {item : WorkItem} {worker : WorkerId} {limit : Nat}

/-- A turn that loses tasks and one count of failures, that of an item it records. -/
theorem shrinksTo_of_record {after : Turn} {record : Record}
    (tasks : after.controller.tasks ≤ turn.controller.tasks)
    (written : after.log.records.Perm (record :: turn.log.records))
    (retries : ∀ work, record.work ≠ work →
      after.controller.faultRetries.find? work = turn.controller.faultRetries.find? work) :
    turn.ShrinksTo after where
  tasks := tasks
  noted := by
    intro noted member
    exact written.mem_iff.2 (List.mem_cons_of_mem _ member)
  retries := by
    intro work unrecorded
    exact retries work (unrecorded record (written.mem_iff.2 List.mem_cons_self))

/-- Publishing shrinks. -/
theorem shrinksTo_publish (turn : Turn) (result : WorkResult) :
    turn.ShrinksTo (turn.publish result) := by
  refine shrinksTo_of_record (le_refl _) (RoundLog.records_of_result rfl rfl) ?_
  intro work different
  rw [publish, KeyMap.find?_erase]
  exact if_neg (Ne.symm different)

/-- Publishing several results shrinks. -/
theorem shrinksTo_publishAll (turn : Turn) (results : List WorkResult) :
    turn.ShrinksTo (results.foldl publish turn) := by
  apply List.foldlRecOn (motive := fun after : Turn => turn.ShrinksTo after)
  · exact .refl _ _
  · intro after shrinks result _
    exact shrinks.trans (shrinksTo_publish after result)

/-- A poll makes no new task. -/
theorem tasks_poll_le (collector : Collector) (completions : List Completion)
    (pool : WorkerPool) (round : Round) :
    (collector.poll completions pool round).pool.tasks round ≤ pool.tasks round := by
  unfold Collector.poll
  split
  · exact le_refl _
  · apply List.foldlRecOn (motive := fun progress : Collector.Progress =>
      progress.pool.tasks round ≤ pool.tasks round)
    · exact le_refl _
    · intro progress fewer completion _
      unfold Collector.Progress.accept
      split
      next => exact fewer
      next => exact (WorkerPool.tasks_update_le (fun _ => rfl) round).trans fewer

/-- Collecting shrinks. -/
theorem shrinksTo_collect (turn : Turn) (snapshot : Snapshot) :
    turn.ShrinksTo (turn.collect snapshot) := by
  unfold collect
  dsimp only
  refine Shrinks.trans ?_ (shrinksTo_publishAll _ _)
  exact ⟨add_le_add_right (tasks_poll_le _ _ _ _) _, List.Subset.refl _, fun _ _ => rfl⟩

section Faults

/-- An item that returns to the queue is a task of no rounds, beside the others. -/
theorem tasks_release_le (turn : Turn) (worker : WorkerId) :
    turn.controller.queues.contents.map (·, 0) +
        (turn.controller.pool.release worker .idle).tasks turn.controller.round ≤
      turn.controller.tasks :=
  add_le_add_right (WorkerPool.tasks_update_le (fun _ => rfl) _) _

/-- The item of a worker past its time is dropped. -/
theorem shrinksTo_drop {after : Turn} {retries : Nat} {reason : DropReason}
    (queues : after.controller.queues = turn.controller.queues)
    (pool : after.controller.pool = turn.controller.pool.release worker .idle)
    (round : after.controller.round = turn.controller.round)
    (counts : after.controller.faultRetries =
      (turn.controller.faultRetries.insert item.id retries).erase item.id)
    (results : after.log.results = turn.log.results)
    (drops : after.log.drops =
      turn.log.drops ++ [item.dropRecord reason turn.controller.round]) :
    turn.ShrinksTo after := by
  refine shrinksTo_of_record ?_ (RoundLog.records_of_drop results drops) ?_
  · rw [Controller.tasks, queues, pool, round]
    exact tasks_release_le turn worker
  · intro work different
    have other : work ≠ item.id := Ne.symm different
    rw [counts, KeyMap.find?_erase, if_neg other, KeyMap.find?_insert, if_neg other]

/-- The item of a worker past its time is queued again. -/
theorem outstanding_requeue {after : Turn} {slot : WorkerSlot}
    (found : turn.controller.pool.slot? worker = some slot) (holds : slot.item = some item)
    (distinct : (turn.controller.live.map (·.id)).Nodup)
    (first : (turn.controller.faultRetries.find? item.id).getD 0 = 0)
    (contents : after.controller.queues.contents = item ::ₘ turn.controller.queues.contents)
    (pool : after.controller.pool = turn.controller.pool.release worker .idle)
    (round : after.controller.round = turn.controller.round)
    (counts : after.controller.faultRetries = turn.controller.faultRetries.insert item.id 1) :
    after.controller.outstanding limit ≤ turn.controller.outstanding limit := by
  have taken : turn.controller.pool.tasks turn.controller.round =
      (item, slot.elapsed turn.controller.round) ::ₘ
        (turn.controller.pool.release worker .idle).tasks turn.controller.round :=
    WorkerPool.gather_of_some_none found (by rw [holds, Option.map_some]) rfl
  have before : turn.controller.tasks =
      (item, slot.elapsed turn.controller.round) ::ₘ
        (turn.controller.queues.contents.map (·, 0) +
          (turn.controller.pool.release worker .idle).tasks turn.controller.round) := by
    rw [Controller.tasks, taken, Multiset.add_cons]
  refine Controller.outstanding_retry before ?_ distinct first counts
  rw [Controller.tasks, contents, pool, round, Multiset.map_cons, Multiset.cons_add]

variable {items : Multiset WorkItem}

/-- No live item is recorded in a turn that accounts for items of distinct numbers. -/
theorem Keeps.outstanding_le {after : Turn} (keeps : after.Keeps items 0)
    (distinct : (items.map (·.id)).Nodup) (shrinks : turn.ShrinksTo after) :
    after.controller.outstanding limit ≤ turn.controller.outstanding limit := by
  have accounted := keeps.accounted
  rw [zero_add] at accounted
  exact shrinks.outstanding_le limit (accounted.work_ne distinct)

/-- What becomes of the item of a worker past its time: it is gone, or this was the
first attempt and the item is queued again. -/
inductive Settles (turn : Turn) (worker : WorkerId) (after : Turn) : Prop where
  | gone (shrinks : turn.ShrinksTo after)
  | requeued {item : WorkItem} (holds : turn.controller.pool.itemOf? worker = some item)
      (first : (turn.controller.faultRetries.find? item.id).getD 0 = 0)
      (accepted : turn.controller.queues.requeue? item = some after.controller.queues)
      (pool : after.controller.pool = turn.controller.pool.release worker .idle)
      (round : after.controller.round = turn.controller.round)
      (counts : after.controller.faultRetries = turn.controller.faultRetries.insert item.id 1)

/-- Taking back a late item settles its worker. -/
theorem settles_reclaimFault (turn : Turn) (worker : WorkerId) :
    turn.Settles worker (turn.reclaimFault worker) := by
  unfold reclaimFault
  dsimp only
  split
  next =>
    exact .gone ⟨tasks_release_le turn worker, List.Subset.refl _, fun _ _ => rfl⟩
  next item holds =>
    split
    next => exact .gone (shrinksTo_drop rfl rfl rfl rfl rfl rfl)
    next notAgain =>
      have first : (turn.controller.faultRetries.find? item.id).getD 0 = 0 := by omega
      unfold requeueOrDrop
      dsimp only
      split
      next accepted => exact .requeued holds first accepted rfl rfl (by rw [first])
      next => exact .gone (shrinksTo_drop rfl rfl rfl rfl rfl rfl)

/-- Taking back a late item leaves no more outstanding. -/
theorem outstanding_reclaimFault (keeps : turn.Keeps items 0)
    (distinct : (items.map (·.id)).Nodup) (trusts : turn.controller.pool.Trusts worker) :
    (turn.reclaimFault worker).controller.outstanding limit ≤
      turn.controller.outstanding limit := by
  cases settles_reclaimFault turn worker with
  | gone shrinks => exact (keeps.reclaimFault trusts).outstanding_le distinct shrinks
  | requeued holds first accepted pool round counts =>
      obtain ⟨slot, found, held⟩ := Option.bind_eq_some_iff.1 holds
      have accounted := keeps.accounted
      rw [zero_add] at accounted
      exact outstanding_requeue found held (accounted.distinct_live distinct) first
        (AdmissionQueues.contents_requeue? accepted) pool round counts

/-- Looking for late workers leaves no more outstanding. -/
theorem outstanding_detectFaults (keeps : turn.Keeps items 0)
    (distinct : (items.map (·.id)).Nodup) :
    turn.detectFaults.controller.outstanding limit ≤ turn.controller.outstanding limit := by
  have kept := WorkerPool.foldl_release (fun turn : Turn => turn.controller.pool)
    (motive := fun after => after.Keeps items 0 ∧
      after.controller.outstanding limit ≤ turn.controller.outstanding limit)
    (fun {after worker} ⟨keeps, bounded⟩ trusts =>
      ⟨keeps.reclaimFault trusts,
        (outstanding_reclaimFault keeps distinct trusts).trans bounded⟩)
    pool_reclaimFault ⟨keeps, Nat.le_refl _⟩ (trusts_of_mem_overdue keeps.sound)
  exact kept.2

end Faults

section Later

/-- Without tampering the health reports leave the slots alone. -/
theorem applyReports_of_untampered (gate : TrustGate) (pool : WorkerPool)
    {reports : List HealthReport} (untampered : ∀ report ∈ reports, report.tampered = false) :
    (gate.applyReports pool reports).pool = pool ∧
      (gate.applyReports pool reports).change.reclaimed = [] := by
  unfold TrustGate.applyReports
  apply List.foldlRecOn (motive := fun progress : TrustGate.Progress =>
    progress.pool = pool ∧ progress.change.reclaimed = [])
  · exact ⟨rfl, rfl⟩
  · intro progress unchanged report member
    unfold TrustGate.Progress.applyReport
    split
    next => exact unchanged
    next =>
      dsimp only
      rw [untampered report member, Bool.false_and, if_neg Bool.false_ne_true]
      split <;> exact unchanged

/-- Without tampering the health reports shrink. -/
theorem shrinksTo_applyHealth (turn : Turn) {snapshot : Snapshot}
    (untampered : ∀ report ∈ snapshot.health, report.tampered = false) :
    turn.ShrinksTo (turn.applyHealth snapshot) := by
  obtain ⟨pool, reclaimed⟩ := applyReports_of_untampered turn.controller.gate
    turn.controller.pool untampered
  unfold applyHealth
  dsimp only
  rw [reclaimed, List.foldl_nil, pool]
  exact ⟨le_refl _, List.Subset.refl _, fun _ _ => rfl⟩

/-- Where reclaimed items are dropped, a preempted item ends as exhausted. -/
theorem shrinksTo_preempt (turn : Turn) (worker : WorkerId)
    (drops : turn.controller.config.thermal.reclaim = .drop) :
    turn.ShrinksTo (turn.preempt worker) := by
  unfold preempt
  dsimp only
  split
  next => exact ⟨tasks_release_le turn worker, List.Subset.refl _, fun _ _ => rfl⟩
  next item holds =>
    rw [drops]
    refine Shrinks.trans ?_ (shrinksTo_publish _ _)
    exact ⟨tasks_release_le turn worker, List.Subset.refl _, fun _ _ => rfl⟩

/-- Where reclaimed items are dropped, idling workers shrinks. -/
theorem shrinksTo_preemptAll (turn : Turn) (workers : List WorkerId)
    (drops : turn.controller.config.thermal.reclaim = .drop) :
    turn.ShrinksTo (workers.foldl preempt turn) := by
  induction workers generalizing turn with
  | nil => exact .refl _ _
  | cons worker rest inductionHypothesis =>
      rw [List.foldl_cons]
      refine (shrinksTo_preempt turn worker drops).trans (inductionHypothesis _ ?_)
      have same := congrArg (·.controller.config) (frame_preempt turn worker)
      exact (congrArg (·.thermal.reclaim) same).trans drops

/-- The cap puts no item back into the queues, if items are dropped or no worker is
idled. -/
theorem shrinksTo_enforceCap (turn : Turn) (snapshot : Snapshot)
    (unforced : turn.controller.config.thermal.reclaim = .drop ∨
      (turn.enforceCap snapshot).log.forcedIdle = []) :
    turn.ShrinksTo (turn.enforceCap snapshot) := by
  unfold enforceCap at unforced ⊢
  dsimp only at unforced ⊢
  rcases unforced with drops | none
  · refine Shrinks.trans ?_ (shrinksTo_preemptAll _ _ drops)
    exact ⟨le_refl _, List.Subset.refl _, fun _ _ => rfl⟩
  · rw [none]
    exact ⟨le_refl _, List.Subset.refl _, fun _ _ => rfl⟩

/-- The adaptation shrinks. -/
theorem shrinksTo_adapt (turn : Turn) : turn.ShrinksTo turn.adapt := by
  unfold adapt
  dsimp only
  split <;> exact ⟨le_refl _, List.Subset.refl _, fun _ _ => rfl⟩

/-- An item that is handed over is a task of no rounds before and after. -/
theorem tasks_handOver {selection : Policy.Selection} (sound : turn.controller.pool.Sound)
    (selected : turn.selection? = some selection) :
    (turn.handOver selection).controller.tasks = turn.controller.tasks := by
  obtain ⟨slot, found, _, free⟩ := eligible_of_selection? sound selected
  have taken : (turn.handOver selection).controller.pool.tasks turn.controller.round =
      (selection.item, 0) ::ₘ turn.controller.pool.tasks turn.controller.round :=
    WorkerPool.gather_of_none_some found (by rw [free, Option.map_none])
      (by simp [WorkerSlot.take, WorkerSlot.elapsed])
  have left := contents_handOver selected
  rw [Controller.tasks, Controller.tasks, left, Multiset.map_cons, Multiset.cons_add,
    ← Multiset.add_cons, ← taken]
  rfl

/-- Assignments shrink. -/
theorem shrinksTo_assigns {final : Turn} (assigns : Assigns turn final)
    (sound : turn.controller.pool.Sound) : turn.ShrinksTo final := by
  induction assigns with
  | done => exact .refl _ _
  | handOver selected _ inductionHypothesis =>
      refine Shrinks.trans ?_ (inductionHypothesis (sound_handOver sound selected))
      exact ⟨(tasks_handOver sound selected).le, List.Subset.refl _, fun _ _ => rfl⟩

/-- The end of a round changes nothing that is outstanding. -/
theorem outstanding_report (turn : Turn) (limit : Nat) :
    turn.settleQuality.report.1.outstanding limit = turn.controller.outstanding limit :=
  rfl

end Later

end Turn

/-- A report from outside that does not say that a worker was tampered with. -/
def Report.IsQuiet : Report → Prop
  | .health report => report.tampered = false
  | _ => True

instance : ∀ report : Report, Decidable report.IsQuiet
  | .health report => inferInstanceAs (Decidable (report.tampered = false))
  | .completion _ | .sensor _ | .verdict _ _ => .isTrue trivial

namespace Controller

variable {controller : Controller}

/-- Quiet reports tell of no tampering. -/
theorem untampered_of_quiet (quiet : ∀ report ∈ controller.feed, report.IsQuiet) :
    ∀ report ∈ (Snapshot.ofReports controller.feed).health, report.tampered = false := by
  intro report member
  obtain ⟨sent, waits, health⟩ := List.mem_filterMap.1 member
  have calm := quiet sent waits
  cases sent with
  | health other =>
      obtain rfl : other = report := Option.some.inj health
      exact calm
  | completion _ | sensor _ | verdict _ _ => cases health

/-- After the health reports of a round nothing more becomes outstanding. -/
theorem Sound.outstanding_runRound (sound : controller.Sound) (limit : Nat)
    (distinct : (controller.live.map (·.id)).Nodup)
    (unforced : controller.config.thermal.reclaim = .drop ∨
      controller.runRound.2.log.forcedIdle = []) :
    controller.runRound.1.outstanding limit ≤ controller.vetted.controller.outstanding limit := by
  have config := congrArg (·.controller.config) (frame_vetted controller)
  rw [sound.forcedIdle_runRound] at unforced
  have capped := controller.vetted.shrinksTo_enforceCap (Snapshot.ofReports controller.feed)
    (unforced.imp_left (congrArg (·.thermal.reclaim) config).trans)
  have selected := capped.trans (Turn.shrinksTo_adapt _)
  have assigned := selected.trans
    (Turn.shrinksTo_assigns (Turn.assignAll_assigns sound.selecting.sound) sound.selecting.sound)
  have keeps := sound.selecting.assigns (Turn.assignAll_assigns sound.selecting.sound)
  rw [runRound_eq, Turn.outstanding_report]
  exact keeps.outstanding_le distinct assigned

/-- Without tampering nothing becomes outstanding up to the health reports. -/
theorem Sound.outstanding_vetted (sound : controller.Sound) (limit : Nat)
    (distinct : (controller.live.map (·.id)).Nodup)
    (quiet : ∀ report ∈ controller.feed, report.IsQuiet) :
    controller.vetted.controller.outstanding limit ≤
      controller.beginRound.controller.outstanding limit := by
  have collected : controller.collected.controller.outstanding limit ≤
      (controller.beginRound.settleVerdicts
        (Snapshot.ofReports controller.feed)).controller.outstanding limit :=
    sound.collected.outstanding_le distinct (Turn.shrinksTo_collect _ _)
  have inspected : controller.inspected.controller.outstanding limit ≤
      controller.collected.controller.outstanding limit :=
    Turn.outstanding_detectFaults sound.collected distinct
  have vetted : controller.vetted.controller.outstanding limit ≤
      controller.inspected.controller.outstanding limit :=
    sound.vetted.outstanding_le distinct
      (Turn.shrinksTo_applyHealth controller.inspected (untampered_of_quiet quiet))
  exact vetted.trans (inspected.trans collected)

/-- Up to the exclusions no item becomes live. -/
theorem Sound.live_vetted_le (sound : controller.Sound) :
    controller.vetted.controller.live.card ≤ controller.live.card := by
  have accounted := sound.vetted.accounted
  rw [zero_add] at accounted
  exact accounted.card_le

end Controller

end PoolArbiter
