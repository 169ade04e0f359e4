import PoolArbiter.Proofs.Custody.Round

/-!
# Which tiers a round serves

`Controller.assignedTiers` lists the tiers of the items that a round assigns, in
their order. They are exactly the tiers that the starvation guard marks during the
round, and the first of them is the overdue tier, if there is one.
-/

namespace PoolArbiter

namespace StarvationGuard

variable (guard : StarvationGuard) (tiers : List Tier)

/-- Note that several tiers were served. -/
def markAll : StarvationGuard :=
  tiers.foldl markServiced guard

/-- Marking tiers leaves the window alone. -/
@[simp]
theorem window_markAll : (guard.markAll tiers).window = guard.window := by
  unfold markAll
  induction tiers generalizing guard with
  | nil => rfl
  | cons tier rest inductionHypothesis => exact inductionHypothesis (guard.markServiced tier)

/-- Marking tiers leaves the place in the window alone. -/
@[simp]
theorem roundInWindow_markAll : (guard.markAll tiers).roundInWindow = guard.roundInWindow := by
  unfold markAll
  induction tiers generalizing guard with
  | nil => rfl
  | cons tier rest inductionHypothesis => exact inductionHypothesis (guard.markServiced tier)

/-- After the marking those tiers are marked too. -/
theorem serviced_markAll {tier : Tier} :
    (guard.markAll tiers).serviced.get tier = true ↔
      guard.serviced.get tier = true ∨ tier ∈ tiers := by
  unfold markAll
  induction tiers generalizing guard with
  | nil => simp
  | cons first rest inductionHypothesis =>
      rw [List.foldl_cons, inductionHypothesis, List.mem_cons, ← or_assoc]
      simp only [markServiced, PerTier.get_set]
      by_cases same : tier = first <;> simp [same]

end StarvationGuard

namespace Turn

/-- The tiers that are served between two turns. -/
structure Serves (turn final : Turn) (served : List Tier) : Prop where
  assignments : final.log.assignments.map (·.tier) = turn.log.assignments.map (·.tier) ++ served
  guard : final.controller.queues.guard = turn.controller.queues.guard.markAll served
  /-- An overdue tier goes first. -/
  overdue : ∀ {tier}, turn.controller.queues.guard.overdue? turn.controller.queues.depths =
    some tier → served ≠ [] → tier ∈ served

/-- Assignments serve the tiers of their items. -/
theorem Assigns.serves {turn final : Turn} (assigns : Assigns turn final)
    (sound : turn.controller.pool.Sound) (sorted : turn.controller.queues.Sorted) :
    ∃ served, turn.Serves final served := by
  induction assigns with
  | done => exact ⟨[], by simp, rfl, fun _ served => absurd rfl served⟩
  | @handOver turn selection final selected rest inductionHypothesis =>
      obtain ⟨_, _, ⟨tier, chosen, popped⟩, _⟩ := Policy.select?_eq_some selected
      obtain ⟨sortedRest, own⟩ := sorted.popFrom? popped
      obtain ⟨later, serves⟩ :=
        inductionHypothesis (sound_handOver sound selected) sortedRest
      refine ⟨tier :: later, ?_, ?_, ?_⟩
      · rw [serves.assignments]
        simp [Turn.handOver, assignmentOf, own]
      · rw [serves.guard]
        obtain ⟨_, _, queues⟩ := AdmissionQueues.popFrom?_eq_some_iff.1 popped
        have marked : (turn.handOver selection).controller.queues.guard =
            turn.controller.queues.guard.markServiced tier := by
          simp only [Turn.handOver, queues]
        rw [marked]
        rfl
      · intro first overdue _
        rw [Policy.tier?_of_overdue? overdue] at chosen
        rw [Option.some.inj chosen]
        exact List.mem_cons_self

/-- The end of a round sets the slack of the guard and closes its round. -/
theorem guard_report (turn : Turn) :
    let after := turn.settleQuality.report.1
    let closed := (turn.controller.queues.guard.withSlack
      (after.adaptation.slackFor after.quality.state.level)).advance
    after.queues.guard = if turn.log.policySwitch.isSome then closed.restart else closed :=
  rfl

end Turn

namespace Controller

variable {controller : Controller}

/-- The tiers of the items that the next round assigns. -/
def assignedTiers (controller : Controller) : List Tier :=
  controller.runRound.2.log.assignments.map (·.tier)

/-- Up to the assignments the guard stays as it is. -/
theorem guard_selecting (controller : Controller) :
    controller.selecting.controller.queues.guard = controller.queues.guard := by
  have same := congrArg (·.controller.guard) (frame_selecting controller)
  exact same

/-- A round serves the tiers of the items that it assigns. -/
theorem Sound.serves (sound : controller.Sound) :
    controller.selecting.Serves controller.selecting.assignAll controller.assignedTiers := by
  have assigns := Turn.assignAll_assigns sound.selecting.sound
  obtain ⟨served, serves⟩ := assigns.serves sound.selecting.sound sound.selecting.sorted
  have none := congrArg Turn.Frame.assignments (frame_selecting controller)
  simp only [Turn.frame] at none
  have same : controller.assignedTiers = served := by
    have assignments := serves.assignments
    rw [none, List.map_nil, List.nil_append] at assignments
    rw [assignedTiers, runRound_eq, Turn.log_report]
    exact assignments
  rw [same]
  exact serves

end Controller

end PoolArbiter
