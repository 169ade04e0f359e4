import PoolArbiter.Proofs.Custody.Round

/-!
# What a round does to the queues

A round queues items again, serves tiers and moves the starvation guard, and it does nothing
else to the queues. So what these three keep is kept by every round (`Sound.queues_runRound`).
-/

namespace PoolArbiter

variable {motive : AdmissionQueues → Prop}

/-- What is kept as items are queued again, tiers are served and the guard moves. -/
structure AdmissionQueues.IsKept (motive : AdmissionQueues → Prop) : Prop where
  requeue? : ∀ {queues next : AdmissionQueues} {item : WorkItem}, motive queues →
    queues.requeue? item = some next → motive next
  popFrom? : ∀ {queues next : AdmissionQueues} {tier : Tier} {item : WorkItem}, motive queues →
    queues.popFrom? tier = some (item, next) → motive next
  withGuard : ∀ {queues : AdmissionQueues} (guard : StarvationGuard), motive queues →
    motive { queues with guard := guard }

namespace AdmissionQueues.IsKept

variable {turn final : Turn} (kept : IsKept motive) (snapshot : Snapshot)

include kept

/-- Queueing an item again keeps it. -/
theorem requeueOrDrop (holds : motive turn.controller.queues) (item : WorkItem) :
    motive (turn.requeueOrDrop item).controller.queues := by
  unfold Turn.requeueOrDrop
  dsimp only
  split
  next accepted => exact kept.requeue? holds accepted
  next => exact holds

/-- Queueing several items again keeps it. -/
theorem requeueAll (holds : motive turn.controller.queues) (items : List WorkItem) :
    motive (items.foldl Turn.requeueOrDrop turn).controller.queues :=
  List.foldlRecOn (motive := fun turn : Turn => motive turn.controller.queues) items _ holds
    fun _ holds item _ => kept.requeueOrDrop holds item

/-- Taking items back from late workers keeps it. -/
theorem reclaimAll (holds : motive turn.controller.queues) (workers : List WorkerId) :
    motive (workers.foldl Turn.reclaimFault turn).controller.queues := by
  refine List.foldlRecOn (motive := fun turn : Turn => motive turn.controller.queues) _ _ holds
    fun turn holds worker _ => ?_
  unfold Turn.reclaimFault
  dsimp only
  split
  · exact holds
  · split
    · exact holds
    · apply kept.requeueOrDrop
      exact holds

/-- Looking for late workers keeps it. -/
theorem detectFaults (holds : motive turn.controller.queues) :
    motive turn.detectFaults.controller.queues :=
  kept.reclaimAll holds _

/-- Enforcing the cap keeps it. -/
theorem enforceCap (holds : motive turn.controller.queues) :
    motive (turn.enforceCap snapshot).controller.queues := by
  refine List.foldlRecOn (motive := fun turn : Turn => motive turn.controller.queues) _ _ holds
    fun turn holds worker _ => ?_
  unfold Turn.preempt
  dsimp only
  split
  · exact holds
  · split
    · exact holds
    · apply kept.requeueOrDrop
      exact holds

/-- Assignments keep it. -/
theorem assigns (holds : motive turn.controller.queues) (assigns : Turn.Assigns turn final) :
    motive final.controller.queues := by
  induction assigns with
  | done => exact holds
  | handOver selected _ inductionHypothesis =>
      obtain ⟨_, _, ⟨tier, _, popped⟩, _⟩ := Policy.select?_eq_some selected
      exact inductionHypothesis (kept.popFrom? holds popped)

end AdmissionQueues.IsKept

/-- Completions leave the queues alone. -/
theorem Turn.queues_collect (turn : Turn) (snapshot : Snapshot) :
    (turn.collect snapshot).controller.queues = turn.controller.queues := by
  have published : ∀ (turn : Turn) (result : WorkResult),
      (turn.publish result).controller.queues = turn.controller.queues := fun _ _ => rfl
  exact view_foldl (·.controller.queues) published _ _

/-- The adaptation leaves the queues alone. -/
theorem Turn.queues_adapt (turn : Turn) :
    turn.adapt.controller.queues = turn.controller.queues := by
  unfold adapt
  dsimp only
  split <;> rfl

/-- A round does no more to the queues than to queue items again, to serve tiers and to move the
guard. -/
theorem Controller.Sound.queues_runRound {controller : Controller} (sound : controller.Sound)
    (kept : AdmissionQueues.IsKept motive) (holds : motive controller.queues) :
    motive controller.runRound.1.queues := by
  have collected : motive controller.collected.controller.queues := by
    rw [Controller.collected, Turn.queues_collect]
    exact holds
  have vetted : motive controller.vetted.controller.queues := by
    apply kept.requeueAll
    exact kept.detectFaults collected
  have selecting : motive controller.selecting.controller.queues := by
    rw [selecting_eq, Turn.queues_adapt]
    exact kept.enforceCap _ vetted
  have assigned := kept.assigns selecting (Turn.assignAll_assigns sound.selecting.sound)
  rw [runRound_eq, Turn.queues_report]
  exact kept.withGuard _ assigned

end PoolArbiter
