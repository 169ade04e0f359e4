import PoolArbiter.Proofs.Worker.Freeing

/-!
# Who is trusted

Whether a worker is trusted is written in its slot, and the gate lists those that are
not. Only health reports and the reset change either. `TrustGate.Excludes` says what a
batch of reports does: the workers that it excludes were trusted, and the list still
names exactly those that are not. `TrustGate.slot?_reset` says that the reset brings
back the listed workers and leaves the other slots alone.
-/

namespace PoolArbiter

namespace WorkerPool

/-- There is a worker of this number, and it is not trusted. -/
def Distrusts (pool : WorkerPool) (worker : WorkerId) : Prop :=
  ∃ slot, pool.slot? worker = some slot ∧ slot.trusted = false

/-- Who is trusted, in the order of the slots. -/
def trust (pool : WorkerPool) : List Bool :=
  pool.slots.map (·.trusted)

variable {pool first second : WorkerPool} {worker : WorkerId} {change : WorkerSlot → WorkerSlot}

/-- Who is not trusted can be read off the list. -/
theorem distrusts_iff : pool.Distrusts worker ↔ pool.trust[worker]? = some false := by
  simp only [Distrusts, trust, slot?, List.getElem?_map, Option.map_eq_some_iff]

/-- Who is not trusted depends on the list only. -/
theorem distrusts_congr (same : first.trust = second.trust) :
    first.Distrusts worker ↔ second.Distrusts worker := by
  rw [distrusts_iff, distrusts_iff, same]

/-- The slot of a worker that is not trusted says so. -/
theorem Distrusts.untrusted (distrusts : pool.Distrusts worker) {slot : WorkerSlot}
    (found : pool.slot? worker = some slot) : slot.trusted = false := by
  obtain ⟨other, present, untrusted⟩ := distrusts
  obtain rfl : slot = other := Option.some.inj (found.symm.trans present)
  exact untrusted

/-- In a sound pool the workers that are not trusted are those out of service. -/
theorem Sound.distrusts_iff_unavailable (sound : pool.Sound) :
    pool.Distrusts worker ↔
      ∃ slot, pool.slot? worker = some slot ∧ slot.state = .unavailable := by
  refine exists_congr fun slot => and_congr_right fun found => ?_
  have trusted := (sound.slot (mem_of_slot? found)).trusted
  rw [← Bool.not_eq_true, trusted, not_not]

/-- Workers out of service hold nothing. -/
theorem Sound.vacant_of_untrusted (sound : pool.Sound) {slot : WorkerSlot}
    (found : pool.slot? worker = some slot) (untrusted : slot.trusted = false) :
    slot.isActive = false ∧ slot.item = none := by
  have soundSlot := sound.slot (mem_of_slot? found)
  have inactive : slot.isActive = false := by
    by_contra active
    rw [Bool.not_eq_false] at active
    simp [soundSlot.trusted_of_isActive active] at untrusted
  exact ⟨inactive, soundSlot.item_eq_none inactive⟩

/-- A change that keeps a slot's trust keeps the list. -/
theorem trust_update (pool : WorkerPool) (worker : WorkerId)
    (kept : ∀ slot, (change slot).trusted = slot.trusted) :
    (pool.update worker change).trust = pool.trust :=
  map_slots_update _ pool worker kept

/-- Changes that keep the trust of the slots keep the list. -/
theorem trust_updateAll (pool : WorkerPool) (workers : List WorkerId)
    (kept : ∀ slot, (change slot).trusted = slot.trusted) :
    (pool.updateAll workers change).trust = pool.trust :=
  map_slots_updateAll _ pool workers kept

/-- Idling workers changes no one's trust. -/
theorem trust_releaseAll (pool : WorkerPool) (workers : List WorkerId) :
    (pool.releaseAll workers).trust = pool.trust :=
  trust_updateAll pool workers fun _ => rfl

/-- Taking up work changes no one's trust. -/
theorem trust_promote (pool : WorkerPool) : pool.promote.trust = pool.trust := by
  have same : ∀ slot : WorkerSlot, slot.promote.trusted = slot.trusted := by
    intro slot
    rw [WorkerSlot.promote_eq]
  simp [trust, promote, same]

/-- A completion changes no one's trust. -/
theorem trust_accept (progress : Collector.Progress) (round : Round) (completion : Completion) :
    (progress.accept round completion).pool.trust = progress.pool.trust := by
  unfold Collector.Progress.accept
  split
  next => rfl
  next => exact trust_update _ _ fun _ => rfl

/-- A poll changes no one's trust. -/
theorem trust_poll (collector : Collector) (completions : List Completion) (pool : WorkerPool)
    (round : Round) : (collector.poll completions pool round).pool.trust = pool.trust := by
  unfold Collector.poll
  split
  · rfl
  · exact List.foldlRecOn (motive := fun progress : Collector.Progress =>
      progress.pool.trust = pool.trust) _ _ rfl
      fun progress same completion _ => (trust_accept progress round completion).trans same

/-- Excluding a worker adds it to those that are not trusted. -/
theorem distrusts_exclude {slot : WorkerSlot} (found : pool.slot? worker = some slot)
    (other : WorkerId) :
    (pool.update worker fun held => { held.vacate .unavailable with trusted := false }).Distrusts
      other ↔ other = worker ∨ pool.Distrusts other := by
  unfold Distrusts
  rw [slot?_update]
  by_cases same : worker = other
  · subst same
    simp [found]
  · simp [same, Ne.symm same]

end WorkerPool

namespace TrustGate

/-- The gate lists exactly the workers that are not trusted. -/
def Lists (gate : TrustGate) (pool : WorkerPool) : Prop :=
  ∀ worker, gate.excluded.contains worker = true ↔ pool.Distrusts worker

/-- Reports that were applied to a pool excluded trusted workers, and the gate lists
them with those that were not trusted before. -/
structure Excludes (before : WorkerPool) (progress : Progress) : Prop where
  lists : progress.gate.Lists progress.pool
  distrusts : ∀ worker, progress.pool.Distrusts worker ↔
    before.Distrusts worker ∨ worker ∈ progress.change.excluded
  trusted : ∀ worker ∈ progress.change.excluded, ¬before.Distrusts worker

variable {gate : TrustGate} {pool : WorkerPool} {progress : Progress}

/-- A report excludes a trusted worker, or it changes neither the pool nor who is
excluded. -/
theorem Progress.applyReport_cases (progress : Progress) (report : HealthReport) :
    ((progress.applyReport report).pool = progress.pool ∧
      (progress.applyReport report).gate.excluded = progress.gate.excluded ∧
      (progress.applyReport report).change.excluded = progress.change.excluded) ∨
    ∃ slot, progress.pool.slot? report.worker = some slot ∧ slot.trusted = true ∧
      (progress.applyReport report).pool =
        progress.pool.update report.worker
          (fun held => { held.vacate .unavailable with trusted := false }) ∧
      (progress.applyReport report).gate.excluded =
        progress.gate.excluded.insert report.worker () ∧
      (progress.applyReport report).change.excluded =
        progress.change.excluded ++ [report.worker] := by
  unfold Progress.applyReport
  split
  next => exact .inl ⟨rfl, rfl, rfl⟩
  next slot found =>
    dsimp only
    by_cases tampered : (report.tampered && slot.trusted) = true
    · have trusted := (Bool.and_eq_true_iff.1 tampered).2
      rw [if_pos tampered]
      refine .inr ⟨slot, found, trusted, ?_⟩
      split <;> exact ⟨rfl, rfl, rfl⟩
    · rw [if_neg tampered]
      refine .inl ?_
      split <;> exact ⟨rfl, rfl, rfl⟩

/-- A health report excludes its worker or no one. -/
theorem Excludes.applyReport {before : WorkerPool} (excludes : Excludes before progress)
    (report : HealthReport) : Excludes before (progress.applyReport report) := by
  rcases progress.applyReport_cases report with
    ⟨samePool, sameGate, sameChange⟩ | ⟨slot, found, trusted, pool, gate, change⟩
  · refine ⟨?_, ?_, ?_⟩
    · rw [Lists, samePool, sameGate]
      exact excludes.lists
    · rw [samePool, sameChange]
      exact excludes.distrusts
    · rw [sameChange]
      exact excludes.trusted
  · refine ⟨?_, ?_, ?_⟩
    · intro worker
      rw [gate, pool, KeyMap.contains_insert, WorkerPool.distrusts_exclude found,
        excludes.lists worker]
    · intro worker
      rw [pool, change, WorkerPool.distrusts_exclude found, excludes.distrusts worker,
        List.mem_append, List.mem_singleton]
      tauto
    · intro worker listed
      rw [change] at listed
      rcases List.mem_append.1 listed with old | new
      · exact excludes.trusted worker old
      · obtain rfl := List.mem_singleton.1 new
        intro distrusts
        have untrusted := ((excludes.distrusts _).2 (.inl distrusts)).untrusted found
        simp [trusted] at untrusted

/-- What a batch of health reports excludes. -/
theorem excludes_applyReports (lists : gate.Lists pool) (reports : List HealthReport) :
    Excludes pool (gate.applyReports pool reports) := by
  unfold applyReports
  apply List.foldlRecOn
  · exact ⟨lists, by simp, by simp⟩
  · intro progress excludes report _
    exact excludes.applyReport report

/-- The reset brings back exactly the listed workers. -/
theorem slot?_reset (gate : TrustGate) (pool : WorkerPool) (worker : WorkerId) :
    (gate.reset pool).2.slot? worker =
      if gate.excluded.contains worker then (pool.slot? worker).map restore
      else pool.slot? worker := by
  have restored := WorkerPool.slot?_updateAll restore_restore pool gate.excluded.keys worker
  simp only [KeyMap.mem_keys] at restored
  exact restored

end TrustGate

end PoolArbiter
