import PoolArbiter.Proofs.Custody.Departures

/-!
# Departures in a lifetime

What the workers held before a round they hold when items are assigned, or the round
reports that it left them; draining reports what it takes as well. Verdicts are kept on
items that workers hold and on no others: `Lifetime.recalls` says so between any two
operations.
-/

namespace PoolArbiter

namespace Controller

variable {controller : Controller}

/-- The turn after the verdicts of a round. -/
def settled (controller : Controller) : Turn :=
  controller.beginRound.settleVerdicts (Snapshot.ofReports controller.feed)

/-- The verdict that a round applies to the completion of an item. -/
def pendingVerdict? (controller : Controller) (work : WorkId) : Option Bool :=
  controller.settled.controller.collector.verdicts.find? work

/-- Verdicts are kept on items at work alone. -/
def Recalls (controller : Controller) : Prop :=
  ∀ work, work ∉ controller.pool.works → controller.collector.verdicts.find? work = none

/-- If no item is live twice, no two workers hold one item. -/
theorem nodup_works_of_live (distinct : (controller.live.map (·.id)).Nodup) :
    controller.pool.works.Nodup := by
  rw [live, Multiset.map_add, Multiset.nodup_add] at distinct
  exact distinct.2.1

section Round

/-- The last verdict that is remembered or in the feed, feed first. -/
theorem pendingVerdict?_eq (controller : Controller) (work : WorkId) :
    controller.pendingVerdict? work =
      if work ∈ controller.pool.worksInFlight then
        ((Snapshot.ofReports controller.feed).verdicts.find? work).or
          (controller.collector.verdicts.find? work)
      else controller.collector.verdicts.find? work := by
  rw [← WorkerPool.worksInFlight_promote]
  exact Collector.find?_recordVerdicts _ _ _ _

/-- Once the round's verdicts are settled no item has departed yet. -/
theorem Sound.departs_settled (sound : controller.Sound) (recalls : controller.Recalls)
    (distinct : controller.pool.works.Nodup) :
    controller.settled.Departs controller.pool.works controller.pendingVerdict? 0 where
  logged := by
    have held : controller.settled.controller.pool.works = controller.pool.works :=
      WorkerPool.works_promote controller.pool
    refine ⟨distinct, ?_, fun work => ?_⟩
    · rw [held, zero_add]
      exact (add_zero controller.pool.works).symm
    · rw [zero_add, held]
      split
      next => rfl
      next absent =>
        -- A verdict is taken in only if its item is at work.
        have idle : work ∉ controller.pool.worksInFlight := by
          rwa [sound.pool.mem_worksInFlight]
        have pending := controller.pendingVerdict?_eq work
        rwa [if_neg idle, recalls work absent] at pending
  reasons := by
    intro drop member
    cases member

/-- Up to the assignments a round logs what leaves the workers. -/
theorem Sound.departs_selecting (sound : controller.Sound) (recalls : controller.Recalls)
    (distinct : controller.pool.works.Nodup) :
    controller.selecting.Departs controller.pool.works controller.pendingVerdict? 0 := by
  have inspected := ((sound.departs_settled recalls distinct).collect
    (Snapshot.ofReports controller.feed)).detectFaults
  exact ((inspected.applyHealth sound.inspected.sound _).enforceCap _).adapt

/-- After the adaptation a round logs nothing but assignments. -/
theorem Sound.log_runRound (sound : controller.Sound) :
    controller.runRound.2.log =
      { controller.selecting.log with assignments := controller.runRound.2.log.assignments } := by
  rw [runRound_eq, Turn.log_report]
  exact (Turn.assignAll_assigns sound.selecting.sound).log_eq

/-- All departures of a round come before its assignments. -/
theorem Sound.departed_runRound (sound : controller.Sound) :
    controller.runRound.2.log.departed = controller.selecting.log.departed := by
  rw [sound.log_runRound]
  dsimp only [RoundLog.departed]

/-- What the workers held before a round they hold when items are assigned, or the round
reports that it left them. -/
theorem Sound.works_runRound (sound : controller.Sound) (recalls : controller.Recalls)
    (distinct : controller.pool.works.Nodup) :
    controller.pool.works =
      controller.selecting.controller.pool.works + controller.runRound.2.log.departed := by
  rw [sound.departed_runRound, (sound.departs_selecting recalls distinct).logged.balance, zero_add]

/-- The verdicts that are kept at the end of a round are those on items at work then. -/
theorem Sound.recalls_runRound (sound : controller.Sound) : controller.runRound.1.Recalls := by
  intro work absent
  have soundAfter : controller.runRound.1.pool.Sound := (sound.perform .round).sound.pool
  rw [← soundAfter.mem_worksInFlight, pool_runRound] at absent
  rw [runRound_eq, Turn.collector_report, Collector.find?_retainInFlight, if_neg absent]

end Round

section Draining

/-- Draining records what leaves the workers. -/
theorem Recalls.departs_drain (recalls : controller.Recalls)
    (distinct : controller.pool.works.Nodup) :
    Departs controller.pool.works controller.collector.verdicts.find? 0
      (controller.drain.2.map (·.work)) controller.drain.1.collector controller.drain.1.pool := by
  refine List.foldlRecOn (motive := fun progress : Controller × List DropRecord =>
    Departs controller.pool.works controller.collector.verdicts.find? 0
      (progress.2.map (·.work)) progress.1.collector progress.1.pool)
    controller.pool.activeDescending.reverse drainWorker ?_ ?_
  · refine ⟨distinct, by simp, fun work => ?_⟩
    rw [zero_add]
    split
    · rfl
    · exact recalls work ‹_›
  · intro progress departs worker _
    unfold drainWorker
    dsimp only
    split
    next free => exact departs.vacate free _ fun _ => rfl
    next item holds =>
      have released := departs.takeBack holds (·.vacate .idle) fun _ => rfl
      refine released.close (fun key => KeyMap.find?_erase _ item.id key) ?_
      rw [List.map_append, Multiset.cons_coe]
      exact Multiset.coe_eq_coe.2 (List.perm_append_singleton _ _)

/-- Draining drops items as drained only. -/
theorem drains (controller : Controller) :
    ∀ drop ∈ controller.drain.2, drop.reason = .drained := by
  refine List.foldlRecOn (motive := fun progress : Controller × List DropRecord =>
    ∀ drop ∈ progress.2, drop.reason = .drained)
    controller.pool.activeDescending.reverse drainWorker (by simp) ?_
  intro progress drained worker _
  unfold drainWorker
  dsimp only
  split
  next => exact drained
  next item _ =>
    intro drop member
    rcases List.mem_append.1 member with old | new
    · exact drained drop old
    · rw [List.mem_singleton.1 new]
      rfl

end Draining

/-- Between two rounds only draining takes items from workers. -/
theorem works_perform (controller : Controller) (operation : Operation)
    (between : operation ≠ .round) (kept : operation ≠ .drain) :
    (controller.perform operation).1.pool.works = controller.pool.works := by
  rw [pool_perform]
  cases operation with
  | round => exact absurd rfl between
  | drain => exact absurd rfl kept
  | resetSecurity => exact WorkerPool.works_updateAll _ _ fun _ => rfl
  | _ => rfl

/-- Operations between two rounds take in no verdict. -/
theorem Recalls.perform (recalls : controller.Recalls) (distinct : controller.pool.works.Nodup)
    (operation : Operation) (between : operation ≠ .round) :
    (controller.perform operation).1.Recalls := by
  by_cases drain : operation = .drain
  · subst drain
    intro work absent
    have departs := recalls.departs_drain distinct
    rw [show (controller.perform .drain).1 = controller.drain.1 from rfl] at absent ⊢
    rw [departs.recalled work, zero_add, if_neg absent]
  · intro work absent
    rw [works_perform controller operation between drain] at absent
    have none := recalls work absent
    cases operation with
    | round => exact absurd rfl between
    | drain => exact absurd rfl drain
    | submit payload tier =>
        unfold Controller.perform submit
        dsimp only
        split
        · exact none
        · split <;> exact none
    | withdraw other =>
        unfold Controller.perform withdraw
        dsimp only
        split
        next => exact none
        next item _ _ =>
          refine (KeyMap.find?_erase _ item.id work).trans ?_
          rw [none]
          split <;> rfl
    | _ => exact none

end Controller

/-- No two workers hold items of the same number. -/
theorem Ledgered.nodup_works {history : History} {controller : Controller}
    (ledgered : Ledgered history controller) : controller.pool.works.Nodup :=
  Controller.nodup_works_of_live ledgered.distinct_live

namespace Lifetime

variable {config : Configuration} {history : History} {controller : Controller}

/-- Throughout a lifetime no two workers hold one item. -/
theorem nodup_works (lifetime : Lifetime config history controller) :
    controller.pool.works.Nodup :=
  lifetime.ledgered.nodup_works

/-- Throughout a lifetime the collector recalls the verdicts of the items at work. -/
theorem recalls (lifetime : Lifetime config history controller) : controller.Recalls :=
  lifetime.invariant (motive := fun _ controller => controller.Recalls) (fun _ _ => rfl)
    (fun prior _ => prior.ledgered.sound.recalls_runRound)
    fun operation between prior recalls => recalls.perform prior.nodup_works operation between

end Lifetime

end PoolArbiter
