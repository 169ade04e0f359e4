import PoolArbiter.Proofs.Custody.Round

/-!
# Entries that stay in the log

A round only adds to the drops and to the requeued items of its log. What one of its steps
has entered there is therefore in the report.
-/

namespace PoolArbiter

/-- A log has the drops and the requeued items of an earlier one, and perhaps more. -/
structure RoundLog.Extends (earlier later : RoundLog) : Prop where
  drops : earlier.drops ⊆ later.drops
  requeued : earlier.requeued ⊆ later.requeued

namespace RoundLog.Extends

/-- A log extends itself. -/
theorem refl (log : RoundLog) : log.Extends log :=
  ⟨List.Subset.refl _, List.Subset.refl _⟩

/-- What extends an extension extends the log. -/
theorem trans {first second third : RoundLog} (earlier : first.Extends second)
    (later : second.Extends third) : first.Extends third :=
  ⟨List.Subset.trans earlier.drops later.drops,
    List.Subset.trans earlier.requeued later.requeued⟩

/-- Steps that add entries add them as a whole. -/
theorem foldl {α : Type} {step : Turn → α → Turn}
    (extended : ∀ (turn : Turn) value, turn.log.Extends (step turn value).log) (values : List α)
    (turn : Turn) : turn.log.Extends (values.foldl step turn).log := by
  induction values generalizing turn with
  | nil => exact refl _
  | cons value rest inductionHypothesis =>
      rw [List.foldl_cons]
      exact (extended turn value).trans (inductionHypothesis _)

end RoundLog.Extends

namespace Turn

variable (turn : Turn) (snapshot : Snapshot)

/-- Queueing an item again takes no entry away. -/
theorem extends_requeueOrDrop (item : WorkItem) :
    turn.log.Extends (turn.requeueOrDrop item).log := by
  unfold requeueOrDrop
  dsimp only
  split
  next => exact ⟨List.Subset.refl _, List.subset_append_left _ _⟩
  next => exact ⟨List.subset_append_left _ _, List.Subset.refl _⟩

/-- Taking back a late item takes no entry away. -/
theorem extends_reclaimFault (worker : WorkerId) :
    turn.log.Extends (turn.reclaimFault worker).log := by
  unfold reclaimFault
  dsimp only
  split
  next => exact ⟨List.Subset.refl _, List.Subset.refl _⟩
  next item _ =>
    split
    · exact ⟨List.subset_append_left _ _, List.Subset.refl _⟩
    · refine .trans ?_ (extends_requeueOrDrop _ item)
      exact ⟨List.Subset.refl _, List.Subset.refl _⟩

/-- Exclusions take no entry away. -/
theorem extends_applyHealth : turn.log.Extends (turn.applyHealth snapshot).log := by
  unfold applyHealth
  refine .trans ?_ (.foldl extends_requeueOrDrop _ _)
  exact ⟨List.Subset.refl _, List.Subset.refl _⟩

/-- Idling a worker over the cap takes no entry away. -/
theorem extends_preempt (worker : WorkerId) : turn.log.Extends (turn.preempt worker).log := by
  unfold preempt
  dsimp only
  split
  next => exact .refl _
  next item _ =>
    split
    · exact ⟨List.Subset.refl _, List.Subset.refl _⟩
    · refine .trans ?_ (extends_requeueOrDrop _ item)
      exact ⟨List.Subset.refl _, List.Subset.refl _⟩

/-- Enforcing the cap takes no entry away. -/
theorem extends_enforceCap : turn.log.Extends (turn.enforceCap snapshot).log := by
  let governor :=
    turn.controller.governor.recompute turn.controller.pool.activeCount snapshot.sensor
  have shed := RoundLog.Extends.foldl extends_preempt (governor.excess turn.controller.pool)
    { turn with controller := { turn.controller with governor := governor } }
  exact ⟨shed.drops, shed.requeued⟩

/-- The adaptation takes no entry away. -/
theorem extends_adapt : turn.log.Extends turn.adapt.log := by
  unfold adapt
  dsimp only
  split <;> exact ⟨List.Subset.refl _, List.Subset.refl _⟩

/-- Assignments take no entry away. -/
theorem Assigns.extends {turn final : Turn} (assigns : Assigns turn final) :
    turn.log.Extends final.log := by
  rw [assigns.log_eq]
  exact ⟨List.Subset.refl _, List.Subset.refl _⟩

end Turn

/-- What a round has entered in its log up to the faults is in its report. -/
theorem Controller.Sound.extends_runRound {controller : Controller} (sound : controller.Sound) :
    controller.inspected.log.Extends controller.runRound.2.log := by
  have vetted := controller.inspected.extends_applyHealth (Snapshot.ofReports controller.feed)
  have selecting := (controller.vetted.extends_enforceCap
    (Snapshot.ofReports controller.feed)).trans (Turn.extends_adapt _)
  rw [runRound_eq, Turn.log_report]
  exact (vetted.trans selecting).trans (Turn.assignAll_assigns sound.selecting.sound).extends

end PoolArbiter
