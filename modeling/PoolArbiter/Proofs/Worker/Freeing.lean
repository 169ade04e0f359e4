import PoolArbiter.Collection
import PoolArbiter.Proofs.Worker.Soundness

/-!
# Slots that lose their items

Completions, faults, exclusions, the cap and draining take items from workers and
give none to them. `WorkerPool.Frees before after` says what they have in common:
the layout of the pool stays, and each slot stays as it is or ends vacant.
`WorkerPool.slot?_updateAll` says what becomes of each slot when those of several
workers are changed alike, in whatever order.
-/

namespace PoolArbiter

namespace WorkerSlot

/-- A slot without an item; what is known of its worker does not matter. -/
structure Vacant (slot : WorkerSlot) : Prop where
  inactive : slot.isActive = false
  item : slot.item = none
  range : slot.range = none
  assignedRound : slot.assignedRound = none

/-- A slot stays as it is, or ends vacant under the same number. -/
inductive Frees (before : WorkerSlot) : WorkerSlot → Prop where
  | kept : Frees before before
  | freed {after : WorkerSlot} (number : after.id = before.id) (vacant : after.Vacant) :
      Frees before after

variable {before middle after slot : WorkerSlot}

/-- A slot that gives up its item is vacant. -/
theorem vacant_vacate (slot : WorkerSlot) {next : WorkerState} (inactive : next.isActive = false) :
    (slot.vacate next).Vacant :=
  ⟨inactive, rfl, rfl, rfl⟩

/-- A freed slot keeps its number. -/
theorem Frees.number (frees : before.Frees after) : after.id = before.id := by
  cases frees with
  | kept => rfl
  | freed number _ => exact number

/-- Freeing a slot twice frees it. -/
theorem Frees.trans (first : before.Frees middle) (second : middle.Frees after) :
    before.Frees after := by
  cases second with
  | kept => exact first
  | freed number vacant => exact .freed (number.trans first.number) vacant

/-- A worker that is still at work has kept its item. -/
theorem Frees.eq_of_isActive (frees : before.Frees after) (active : after.isActive = true) :
    after = before := by
  cases frees with
  | kept => rfl
  | freed _ vacant => simp [vacant.inactive] at active

/-- A slot that is out of service comes back vacant, and the others stay. -/
theorem Sound.frees_restore (sound : slot.Sound) : slot.Frees (TrustGate.restore slot) := by
  by_cases unavailable : slot.state = .unavailable
  · have inactive : slot.isActive = false := by
      simp [isActive, unavailable, WorkerState.isActive]
    have item := sound.item
    have range := sound.range
    have assignedRound := sound.assignedRound
    rw [inactive, Option.isSome_eq_false_iff, Option.isNone_iff_eq_none]
      at item range assignedRound
    refine .freed rfl ⟨?_, item, range, assignedRound⟩
    simp [TrustGate.restore, isActive, unavailable, WorkerState.isActive]
  · have trusted := sound.trusted.2 unavailable
    have same : TrustGate.restore slot = slot := by
      unfold TrustGate.restore
      rw [if_neg unavailable, ← trusted]
    rw [same]
    exact .kept

end WorkerSlot

/-- A worker is restored once. -/
theorem TrustGate.restore_restore (slot : WorkerSlot) : restore (restore slot) = restore slot := by
  unfold restore
  by_cases unavailable : slot.state = .unavailable <;> simp [unavailable]

/-- What no operation changes about a pool. -/
structure WorkerPool.Layout where
  workers : Nat
  searchSpace : Nat
  partitioned : Bool
  deriving DecidableEq, Repr

namespace WorkerPool

/-- The layout of a pool. -/
def layout (pool : WorkerPool) : Layout where
  workers := pool.size
  searchSpace := pool.searchSpace
  partitioned := pool.partitioned

/-- Changing a slot leaves the layout alone. -/
@[simp]
theorem layout_update (pool : WorkerPool) (worker : WorkerId)
    (change : WorkerSlot → WorkerSlot) : (pool.update worker change).layout = pool.layout := by
  unfold layout
  rw [size_update]
  rfl

/-- Taking up work leaves the layout alone. -/
@[simp]
theorem layout_promote (pool : WorkerPool) : pool.promote.layout = pool.layout := by
  unfold layout
  rw [size_promote]
  rfl

/-- A fresh pool has the layout that it is made with. -/
theorem layout_fresh (workers searchSpace : Nat) (partitioned : Bool) :
    (fresh workers searchSpace partitioned).layout = ⟨workers, searchSpace, partitioned⟩ := by
  simp [layout, fresh, size]

/-- The layout tells the size. -/
theorem size_eq_of_layout {first second : WorkerPool} (same : first.layout = second.layout) :
    first.size = second.size :=
  congrArg Layout.workers same

/-- The slices of the search space depend on the layout alone. -/
theorem rangeFor_eq_of_layout {first second : WorkerPool}
    (same : first.layout = second.layout) (worker : WorkerId) :
    first.rangeFor worker = second.rangeFor worker := by
  simp only [layout, size, Layout.mk.injEq] at same
  obtain ⟨sameSize, sameSpace, samePartition⟩ := same
  have sameEmpty : first.slots.isEmpty = second.slots.isEmpty := by
    rw [Bool.eq_iff_iff, List.isEmpty_iff_length_eq_zero, List.isEmpty_iff_length_eq_zero,
      sameSize]
  unfold rangeFor size
  rw [sameEmpty, sameSize, sameSpace, samePartition]

/-- Every slot stays as it is or ends vacant. -/
structure Frees (before after : WorkerPool) : Prop where
  layout : after.layout = before.layout
  slot : ∀ {worker later}, after.slot? worker = some later →
    ∃ earlier, before.slot? worker = some earlier ∧ earlier.Frees later

namespace Frees

variable {before middle after : WorkerPool}

/-- Freeing no slot frees the pool. -/
theorem refl (pool : WorkerPool) : pool.Frees pool :=
  ⟨rfl, fun found => ⟨_, found, .kept⟩⟩

/-- Freeing a pool twice frees it. -/
theorem trans (first : before.Frees middle) (second : middle.Frees after) :
    before.Frees after where
  layout := second.layout.trans first.layout
  slot := by
    intro worker later found
    obtain ⟨between, foundBetween, freesSecond⟩ := second.slot found
    obtain ⟨earlier, foundEarlier, freesFirst⟩ := first.slot foundBetween
    exact ⟨earlier, foundEarlier, freesFirst.trans freesSecond⟩

/-- What no step keeps from freeing slots frees them as a whole. -/
theorem foldl {σ α : Type} (view : σ → WorkerPool) {step : σ → α → σ}
    (frees : ∀ state value, (view state).Frees (view (step state value)))
    (values : List α) (state : σ) : (view state).Frees (view (values.foldl step state)) := by
  induction values generalizing state with
  | nil => exact refl _
  | cons value rest inductionHypothesis =>
      rw [List.foldl_cons]
      exact (frees state value).trans (inductionHypothesis _)

end Frees

section Changes

variable {pool : WorkerPool} {worker : WorkerId} {change : WorkerSlot → WorkerSlot}

/-- A change that frees a slot frees the pool. -/
theorem frees_update (pool : WorkerPool) (worker : WorkerId)
    (frees : ∀ slot, pool.slot? worker = some slot → slot.Frees (change slot)) :
    pool.Frees (pool.update worker change) where
  layout := layout_update pool worker change
  slot := by
    intro read later found
    rw [slot?_update] at found
    split at found
    next same =>
      obtain ⟨earlier, present, rfl⟩ := Option.map_eq_some_iff.1 found
      exact ⟨earlier, present, frees earlier (same ▸ present)⟩
    next => exact ⟨later, found, .kept⟩

/-- A completion does no more to the slots than free them. -/
theorem frees_accept (progress : Collector.Progress) (round : Round) (completion : Completion) :
    progress.pool.Frees (progress.accept round completion).pool := by
  unfold Collector.Progress.accept
  split
  next => exact .refl _
  next => exact frees_update _ _ fun _ _ => .freed rfl ⟨rfl, rfl, rfl, rfl⟩

/-- A poll does no more to the slots than free them. -/
theorem frees_poll (collector : Collector) (completions : List Completion) (pool : WorkerPool)
    (round : Round) : pool.Frees (collector.poll completions pool round).pool := by
  unfold Collector.poll
  split
  · exact .refl _
  · exact Frees.foldl Collector.Progress.pool (frees_accept · round) _ ⟨collector, pool, _⟩

/-- A health report does no more to the slots than free them. -/
theorem frees_applyReport (progress : TrustGate.Progress) (report : HealthReport) :
    progress.pool.Frees (progress.applyReport report).pool := by
  have excluded : progress.pool.Frees (progress.pool.update report.worker fun held =>
      { held.vacate .unavailable with trusted := false }) :=
    frees_update _ _ fun _ _ => .freed rfl ⟨rfl, rfl, rfl, rfl⟩
  unfold TrustGate.Progress.applyReport
  split
  next => exact .refl _
  next =>
    dsimp only
    split <;> split
    · exact excluded
    · exact excluded
    · exact .refl _
    · exact .refl _

/-- Health reports do no more to the slots than free them. -/
theorem frees_applyReports (gate : TrustGate) (pool : WorkerPool) (reports : List HealthReport) :
    pool.Frees (gate.applyReports pool reports).pool :=
  Frees.foldl TrustGate.Progress.pool frees_applyReport reports ⟨gate, pool, {}⟩

end Changes

section Several

/-- Change the slots of several workers alike. -/
def updateAll (pool : WorkerPool) (workers : List WorkerId)
    (change : WorkerSlot → WorkerSlot) : WorkerPool :=
  workers.foldl (fun pool worker => pool.update worker change) pool

/-- Take the items from several workers and idle them. -/
def releaseAll (pool : WorkerPool) (workers : List WorkerId) : WorkerPool :=
  pool.updateAll workers (·.vacate .idle)

variable {change : WorkerSlot → WorkerSlot}

/-- What a change keeps of each slot stays the same for all of them. -/
theorem map_slots_update {α : Type} (view : WorkerSlot → α) (pool : WorkerPool)
    (worker : WorkerId) (kept : ∀ slot, view (change slot) = view slot) :
    (pool.update worker change).slots.map view = pool.slots.map view := by
  apply List.ext_getElem?
  intro place
  have changed := slot?_update pool worker place change
  simp only [slot?] at changed
  simp only [List.getElem?_map, changed]
  split
  · simp [Function.comp_def, kept]
  · rfl

/-- A view that no change affects stays as it is. -/
theorem map_slots_updateAll {α : Type} (view : WorkerSlot → α) (pool : WorkerPool)
    (workers : List WorkerId) (kept : ∀ slot, view (change slot) = view slot) :
    (pool.updateAll workers change).slots.map view = pool.slots.map view :=
  List.foldlRecOn (motive := fun updated : WorkerPool =>
    updated.slots.map view = pool.slots.map view) _ _ rfl
    fun updated same worker _ => (map_slots_update view updated worker kept).trans same

/-- Changing slots leaves the layout alone. -/
theorem layout_updateAll (pool : WorkerPool) (workers : List WorkerId)
    (change : WorkerSlot → WorkerSlot) : (pool.updateAll workers change).layout = pool.layout := by
  induction workers generalizing pool with
  | nil => rfl
  | cons first rest inductionHypothesis =>
      have step : pool.updateAll (first :: rest) change =
          (pool.update first change).updateAll rest change := rfl
      rw [step, inductionHypothesis, layout_update]

/-- A change that is done once when it is done twice reaches the listed slots, and
the others stay as they are. -/
theorem slot?_updateAll (idempotent : ∀ slot, change (change slot) = change slot)
    (pool : WorkerPool) (workers : List WorkerId) (worker : WorkerId) :
    (pool.updateAll workers change).slot? worker =
      if worker ∈ workers then (pool.slot? worker).map change else pool.slot? worker := by
  induction workers generalizing pool with
  | nil => simp [updateAll]
  | cons first rest inductionHypothesis =>
      have step : pool.updateAll (first :: rest) change =
          (pool.update first change).updateAll rest change := rfl
      rw [step, inductionHypothesis, slot?_update]
      by_cases same : first = worker
      · subst same
        cases found : pool.slot? first <;> simp [idempotent]
      · simp [same, Ne.symm same, List.mem_cons]

/-- The released workers are vacant and idle. -/
theorem slot?_releaseAll (pool : WorkerPool) (workers : List WorkerId) (worker : WorkerId) :
    (pool.releaseAll workers).slot? worker =
      if worker ∈ workers then (pool.slot? worker).map (·.vacate .idle)
      else pool.slot? worker := by
  refine slot?_updateAll ?_ pool workers worker
  intro slot
  rfl

/-- Steps that idle one worker each idle all of them. -/
theorem view_foldl_release {σ : Type} (view : σ → WorkerPool) {step : σ → WorkerId → σ}
    (released : ∀ state worker, view (step state worker) = (view state).release worker .idle)
    (workers : List WorkerId) (state : σ) :
    view (workers.foldl step state) = (view state).releaseAll workers := by
  induction workers generalizing state with
  | nil => rfl
  | cons worker rest inductionHypothesis =>
      rw [List.foldl_cons, inductionHypothesis, released]
      rfl

/-- Changes that free slots free the pool, however often they are made. -/
theorem frees_updateAll (pool : WorkerPool) (workers : List WorkerId)
    (idempotent : ∀ slot, change (change slot) = change slot)
    (frees : ∀ {worker slot}, pool.slot? worker = some slot → slot.Frees (change slot)) :
    pool.Frees (pool.updateAll workers change) where
  layout := layout_updateAll pool workers change
  slot := by
    intro worker later found
    rw [slot?_updateAll idempotent] at found
    split at found
    next =>
      obtain ⟨earlier, present, rfl⟩ := Option.map_eq_some_iff.1 found
      exact ⟨earlier, present, frees present⟩
    next => exact ⟨later, found, .kept⟩

/-- Idling workers frees the pool. -/
theorem frees_releaseAll (pool : WorkerPool) (workers : List WorkerId) :
    pool.Frees (pool.releaseAll workers) :=
  pool.frees_updateAll workers (fun _ => rfl) fun {_ slot} _ =>
    .freed rfl (slot.vacant_vacate rfl)

end Several

end WorkerPool

end PoolArbiter
