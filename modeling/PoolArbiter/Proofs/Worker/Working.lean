import Mathlib.Data.List.Sort
import PoolArbiter.Proofs.Worker.Freeing

/-!
# The workers at work

`WorkerPool.Works` says of a worker that it is at work. In a sound pool
`WorkerPool.activeDescending` lists these workers in strictly descending order, so
the list is determined by them, and idling its first workers leaves the rest of it.
-/

namespace PoolArbiter.WorkerPool

/-- There is a worker of this number, and it is at work. -/
def Works (pool : WorkerPool) (worker : WorkerId) : Prop :=
  ∃ slot, pool.slot? worker = some slot ∧ slot.isActive = true

variable {pool before after : WorkerPool} {worker : WorkerId}

/-- Whoever is at work after the freeing was so before. -/
theorem Frees.works (frees : before.Frees after) (works : after.Works worker) :
    before.Works worker := by
  obtain ⟨later, found, active⟩ := works
  obtain ⟨earlier, present, freed⟩ := frees.slot found
  obtain rfl := freed.eq_of_isActive active
  exact ⟨later, present, active⟩

/-- After some workers are idled the others are still at work. -/
theorem works_releaseAll (pool : WorkerPool) (workers : List WorkerId) :
    (pool.releaseAll workers).Works worker ↔ pool.Works worker ∧ worker ∉ workers := by
  unfold Works
  rw [slot?_releaseAll]
  by_cases listed : worker ∈ workers
  · simp [listed, WorkerSlot.vacate, WorkerSlot.isActive, WorkerState.isActive]
  · simp [listed]

/-- The workers at work are counted. -/
theorem length_activeDescending (pool : WorkerPool) :
    pool.activeDescending.length = pool.activeCount := by
  simp [activeDescending, activeSlots, activeCount, List.countP_eq_length_filter]

namespace Sound

/-- The workers at work are listed. -/
theorem mem_activeDescending (sound : pool.Sound) :
    worker ∈ pool.activeDescending ↔ pool.Works worker := by
  simp only [activeDescending, activeSlots, List.mem_map, List.mem_reverse, List.mem_filter]
  constructor
  · rintro ⟨slot, ⟨member, active⟩, rfl⟩
    exact ⟨slot, sound.found member, active⟩
  · rintro ⟨slot, found, active⟩
    exact ⟨slot, ⟨mem_of_slot? found, active⟩, sound.number found⟩

/-- The slots stand in the order of their numbers. -/
theorem map_id (sound : pool.Sound) : pool.slots.map (·.id) = List.range pool.size := by
  apply List.ext_getElem
  · simp [size]
  · intro place inside _
    rw [List.length_map] at inside
    rw [List.getElem_map, List.getElem_range]
    exact sound.number (List.getElem?_eq_getElem inside)

/-- The numbers of sound slots are below the size of the pool. -/
theorem id_lt_size (sound : pool.Sound) {slot : WorkerSlot} (member : slot ∈ pool.slots) :
    slot.id < pool.size :=
  sound.numbered.id_lt_size member

/-- The slots are in the order of their numbers. -/
theorem pairwise_slots (sound : pool.Sound) :
    pool.slots.Pairwise fun first second => first.id < second.id := by
  rw [← List.pairwise_map, sound.map_id]
  exact List.pairwise_lt_range

/-- The slots at work are in the order of their numbers. -/
theorem pairwise_id (sound : pool.Sound) :
    pool.activeSlots.Pairwise fun first second => first.id < second.id :=
  sound.pairwise_slots.sublist List.filter_sublist

/-- The workers at work are listed in descending order. -/
theorem descending (sound : pool.Sound) : pool.activeDescending.Pairwise (· > ·) := by
  rw [activeDescending, List.map_reverse, List.pairwise_reverse, List.pairwise_map]
  exact sound.pairwise_id

/-- No worker at work is listed twice. -/
theorem nodup_activeDescending (sound : pool.Sound) : pool.activeDescending.Nodup :=
  sound.descending.imp Nat.ne_of_gt

/-- Idling the first workers of the list leaves the rest of it. -/
theorem activeDescending_releaseAll (sound : pool.Sound) (count : Nat)
    (soundAfter : (pool.releaseAll (pool.activeDescending.take count)).Sound) :
    (pool.releaseAll (pool.activeDescending.take count)).activeDescending =
      pool.activeDescending.drop count := by
  refine soundAfter.descending.eq_of_mem_iff
    (sound.descending.sublist (List.drop_sublist _ _)) fun worker => ?_
  have split := List.take_append_drop count pool.activeDescending
  have apart := sound.nodup_activeDescending
  rw [← split, List.nodup_append] at apart
  rw [soundAfter.mem_activeDescending, works_releaseAll, ← sound.mem_activeDescending]
  constructor
  · rintro ⟨working, spared⟩
    rw [← split] at working
    exact (List.mem_append.1 working).resolve_left spared
  · intro kept
    refine ⟨List.mem_of_mem_drop kept, fun taken => ?_⟩
    exact apart.2.2 worker taken worker kept rfl

/-- Freeing slots brings no worker to work. -/
theorem activeCount_le_of_frees (sound : before.Sound) (soundAfter : after.Sound)
    (frees : before.Frees after) : after.activeCount ≤ before.activeCount := by
  rw [← length_activeDescending, ← length_activeDescending]
  apply List.Subperm.length_le
  apply soundAfter.nodup_activeDescending.subperm
  intro worker member
  exact sound.mem_activeDescending.2 (frees.works (soundAfter.mem_activeDescending.1 member))

end Sound

end PoolArbiter.WorkerPool
