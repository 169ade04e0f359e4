import Mathlib.Data.Multiset.Filter
import PoolArbiter.Trust

/-!
# Sound slots and the items they hold

`WorkerSlot.Sound` ties the fields of a slot to its state, and `WorkerPool.Sound`
adds that every slot stands at its own number. `WorkerPool.gather` reads the slots
through a view, and `WorkerPool.held` is what they hold. Each change of one slot is
described once by `WorkerPool.exists_split`: the other slots stay, so what is
gathered changes by that slot alone.
-/

namespace PoolArbiter

/-- The fields of a slot agree with its state: it holds an item, a range and a
round exactly while it is at work, a fault has always been settled, and it is
trusted exactly while it is in service. -/
structure WorkerSlot.Sound (slot : WorkerSlot) : Prop where
  item : slot.item.isSome = slot.isActive
  range : slot.range.isSome = slot.isActive
  assignedRound : slot.assignedRound.isSome = slot.isActive
  settled : slot.state ≠ .faulted
  trusted : slot.trusted = true ↔ slot.state ≠ .unavailable

namespace WorkerSlot

/-- A fresh slot is sound. -/
theorem sound_fresh (id : WorkerId) : (fresh id).Sound := by
  constructor <;> simp [fresh, isActive, WorkerState.isActive]

namespace Sound

variable {slot : WorkerSlot}

/-- Only trusted workers are at work. -/
theorem trusted_of_isActive (sound : slot.Sound) (active : slot.isActive = true) :
    slot.trusted = true := by
  rw [sound.trusted]
  intro unavailable
  simp [isActive, unavailable, WorkerState.isActive] at active

/-- A worker with an item is at work. -/
theorem isActive_of_item (sound : slot.Sound) {item : WorkItem}
    (holds : slot.item = some item) : slot.isActive = true := by
  rw [← sound.item, holds]
  rfl

/-- A worker that is not at work has no item. -/
theorem item_eq_none (sound : slot.Sound) (inactive : slot.isActive = false) :
    slot.item = none := by
  rw [← sound.item] at inactive
  simpa using inactive

/-- A trusted slot is idle or at work. -/
theorem isEligible_of_inactive (sound : slot.Sound) (trusted : slot.trusted = true)
    (inactive : slot.isActive = false) : slot.isEligible = true := by
  have inService := sound.trusted.1 trusted
  have settled := sound.settled
  cases state : slot.state <;> simp_all [isActive, isEligible, WorkerState.isActive]

/-- A trusted worker can be idled. -/
theorem vacate_idle (_ : slot.Sound) (trusted : slot.trusted = true) :
    (slot.vacate .idle).Sound := by
  constructor <;> simp [vacate, isActive, WorkerState.isActive, trusted]

/-- The load and the latency do not matter. -/
theorem withFigures (sound : slot.Sound) (load latency : Binary64) :
    { slot with load := load, latency := latency : WorkerSlot }.Sound where
  item := sound.item
  range := sound.range
  assignedRound := sound.assignedRound
  settled := sound.settled
  trusted := sound.trusted

/-- An eligible worker can take an item. -/
theorem take (_ : slot.Sound) (eligible : slot.isEligible = true) (item : WorkItem)
    (range : SearchRange) (round : Round) : (slot.take item range round).Sound := by
  have trusted : slot.trusted = true := by
    simp only [isEligible, Bool.and_eq_true] at eligible
    exact eligible.2
  constructor <;> simp [WorkerSlot.take, isActive, WorkerState.isActive, trusted]

/-- A slot stays sound as its worker takes up its work. -/
theorem promote (sound : slot.Sound) : slot.promote.Sound := by
  unfold WorkerSlot.promote
  split
  next assigned =>
    have active : slot.isActive = true := by
      simp [isActive, assigned, WorkerState.isActive]
    have trusted := sound.trusted_of_isActive active
    constructor
    · simpa [isActive, assigned, WorkerState.isActive] using sound.item
    · simpa [isActive, assigned, WorkerState.isActive] using sound.range
    · simpa [isActive, assigned, WorkerState.isActive] using sound.assignedRound
    · simp
    · simp [trusted]
  next => exact sound

/-- A worker can be restored. -/
theorem restore (sound : slot.Sound) : (TrustGate.restore slot).Sound := by
  have settled := sound.settled
  by_cases unavailable : slot.state = .unavailable
  · have inactive : slot.isActive = false := by
      simp [isActive, unavailable, WorkerState.isActive]
    have item := sound.item
    have range := sound.range
    have assignedRound := sound.assignedRound
    rw [inactive] at item range assignedRound
    constructor <;>
      simp_all [TrustGate.restore, isActive, WorkerState.isActive]
  · have item := sound.item
    have range := sound.range
    have assignedRound := sound.assignedRound
    constructor <;> simp_all [TrustGate.restore, isActive]

end Sound

/-- An excluded slot is sound, whatever it was before. -/
theorem sound_exclude (slot : WorkerSlot) :
    { slot.vacate .unavailable with trusted := false : WorkerSlot }.Sound := by
  constructor <;> simp [vacate, isActive, WorkerState.isActive]

end WorkerSlot

namespace WorkerPool

/-- Every slot stands at its own number. -/
def Numbered (pool : WorkerPool) : Prop :=
  ∀ ⦃worker slot⦄, pool.slot? worker = some slot → slot.id = worker

/-- Every slot is sound and stands at its own number. -/
structure Sound (pool : WorkerPool) : Prop where
  number : ∀ {worker slot}, pool.slot? worker = some slot → slot.id = worker
  slot : ∀ {slot}, slot ∈ pool.slots → slot.Sound

/-- What the slots show, each through the same view. -/
def gather {α : Type} (pool : WorkerPool) (view : WorkerSlot → Option α) : Multiset α :=
  (pool.slots.filterMap view : List α)

/-- The items that the slots hold. -/
abbrev held (pool : WorkerPool) : Multiset WorkItem :=
  pool.gather (·.item)

/-- A worker is trusted, if there is one of this number. -/
def Trusts (pool : WorkerPool) (worker : WorkerId) : Prop :=
  ∀ slot, pool.slot? worker = some slot → slot.trusted = true

/-- A slot that is found is one of the pool. -/
theorem mem_of_slot? {pool : WorkerPool} {worker : WorkerId} {slot : WorkerSlot}
    (found : pool.slot? worker = some slot) : slot ∈ pool.slots :=
  List.mem_of_getElem? found

/-- The slots before and after one slot stay as they are when that slot changes. -/
theorem exists_split {pool : WorkerPool} {worker : WorkerId} {slot : WorkerSlot}
    (found : pool.slot? worker = some slot) :
    ∃ before after, pool.slots = before ++ slot :: after ∧
      ∀ change, (pool.update worker change).slots = before ++ change slot :: after := by
  obtain ⟨inside, same⟩ := List.getElem?_eq_some_iff.1 found
  refine ⟨pool.slots.take worker, pool.slots.drop (worker + 1), ?_, ?_⟩
  · rw [← same]
    simp
  · intro change
    rw [← same]
    exact List.modify_eq_take_cons_drop inside

/-- Changing a slot that is missing changes nothing. -/
theorem update_of_slot?_eq_none {pool : WorkerPool} {worker : WorkerId}
    (missing : pool.slot? worker = none) (change : WorkerSlot → WorkerSlot) :
    pool.update worker change = pool := by
  have outside : pool.slots.length ≤ worker := List.getElem?_eq_none_iff.1 missing
  unfold update
  rw [List.modify_eq_self outside]

section Gather

variable {α : Type} {pool : WorkerPool} {worker : WorkerId} {slot : WorkerSlot}
  {view : WorkerSlot → Option α} {value : α} {change : WorkerSlot → WorkerSlot}

/-- Gathered is what some slot shows. -/
theorem mem_gather : value ∈ pool.gather view ↔ ∃ slot ∈ pool.slots, view slot = some value := by
  simp [gather]

/-- A slot stops showing what it showed. -/
theorem gather_of_some_none (found : pool.slot? worker = some slot)
    (shown : view slot = some value) (gone : view (change slot) = none) :
    pool.gather view = value ::ₘ (pool.update worker change).gather view := by
  obtain ⟨before, after, slots, updated⟩ := exists_split found
  simp only [gather, slots, updated, List.filterMap_append, List.filterMap_cons, shown, gone]
  exact Multiset.coe_eq_coe.2 List.perm_middle

/-- A slot that showed nothing shows something. -/
theorem gather_of_none_some (found : pool.slot? worker = some slot)
    (nothing : view slot = none) (shown : view (change slot) = some value) :
    (pool.update worker change).gather view = value ::ₘ pool.gather view := by
  obtain ⟨before, after, slots, updated⟩ := exists_split found
  simp only [gather, slots, updated, List.filterMap_append, List.filterMap_cons, nothing, shown]
  exact Multiset.coe_eq_coe.2 List.perm_middle

/-- A slot shows what it showed before. -/
theorem gather_of_eq (found : pool.slot? worker = some slot)
    (same : view (change slot) = view slot) :
    (pool.update worker change).gather view = pool.gather view := by
  obtain ⟨before, after, slots, updated⟩ := exists_split found
  simp only [gather, slots, updated, List.filterMap_append, List.filterMap_cons, same]

/-- A slot that fails a test from now on is counted once less. -/
theorem countP_update {test : WorkerSlot → Bool} (found : pool.slot? worker = some slot)
    (change : WorkerSlot → WorkerSlot) (passes : test slot = true)
    (fails : test (change slot) = false) :
    pool.slots.countP test = (pool.update worker change).slots.countP test + 1 := by
  obtain ⟨before, after, slots, updated⟩ := exists_split found
  rw [slots, updated, List.countP_append, List.countP_append, List.countP_cons_of_pos passes,
    List.countP_cons_of_neg (by simp [fails]), Nat.add_assoc]

/-- A view that a change does not affect gathers the same. -/
theorem gather_map (same : ∀ slot, view (change slot) = view slot) :
    gather { pool with slots := pool.slots.map change } view = pool.gather view := by
  simp [gather, List.filterMap_map, same]

/-- A view that does not see workers take up their work gathers the same. -/
theorem gather_promote (same : ∀ slot, view slot.promote = view slot) :
    pool.promote.gather view = pool.gather view :=
  gather_map same

end Gather

/-- Taking up work changes no item. -/
theorem held_promote (pool : WorkerPool) : pool.promote.held = pool.held :=
  gather_promote fun slot => by rw [WorkerSlot.promote_eq]

section Trusts

variable {pool : WorkerPool} {worker : WorkerId}

/-- Taking items from workers leaves them trusted. -/
theorem Trusts.release (trusts : pool.Trusts worker) (released : WorkerId)
    (next : WorkerState) : (pool.release released next).Trusts worker := by
  intro slot found
  rw [WorkerPool.release, slot?_update] at found
  split at found
  next =>
    obtain ⟨old, present, rfl⟩ := Option.map_eq_some_iff.1 found
    exact trusts old present
  next => exact trusts slot found

/-- What idling one trusted worker keeps is kept while several are idled, because
they stay trusted. -/
theorem foldl_release {σ : Type} (pool : σ → WorkerPool) {motive : σ → Prop}
    {step : σ → WorkerId → σ}
    (kept : ∀ {state worker}, motive state → (pool state).Trusts worker →
      motive (step state worker))
    (released : ∀ state worker, pool (step state worker) = (pool state).release worker .idle)
    {state : σ} {workers : List WorkerId} (holds : motive state)
    (trusted : ∀ worker ∈ workers, (pool state).Trusts worker) :
    motive (workers.foldl step state) := by
  induction workers generalizing state with
  | nil => exact holds
  | cons worker rest inductionHypothesis =>
      rw [List.foldl_cons]
      apply inductionHypothesis
      · exact kept holds (trusted worker List.mem_cons_self)
      · intro other member
        rw [released]
        exact (trusted other (List.mem_cons_of_mem _ member)).release worker .idle

end Trusts

section Numbered

variable {pool : WorkerPool} {slot : WorkerSlot}

/-- The slots of a sound pool are numbered. -/
theorem Sound.numbered (sound : pool.Sound) : pool.Numbered :=
  fun _ _ => sound.number

/-- In a numbered pool every slot is found under its number. -/
theorem Numbered.found (numbered : pool.Numbered) (member : slot ∈ pool.slots) :
    pool.slot? slot.id = some slot := by
  obtain ⟨place, at_place⟩ := List.getElem?_of_mem member
  have number : slot.id = place := numbered at_place
  rw [number]
  exact at_place

/-- The numbers are below the size of the pool. -/
theorem Numbered.id_lt_size (numbered : pool.Numbered) (member : slot ∈ pool.slots) :
    slot.id < pool.size :=
  (List.getElem?_eq_some_iff.1 (numbered.found member)).1

/-- The change of one slot that keeps its number leaves the pool numbered. -/
theorem Numbered.update {worker : WorkerId} (numbered : pool.Numbered)
    {change : WorkerSlot → WorkerSlot} (number : ∀ slot, (change slot).id = slot.id) :
    (pool.update worker change).Numbered := by
  intro read slot found
  rw [slot?_update] at found
  split at found
  next same =>
    obtain ⟨old, present, rfl⟩ := Option.map_eq_some_iff.1 found
    rw [number]
    exact numbered present
  next => exact numbered found

end Numbered

namespace Sound

variable {pool : WorkerPool} {worker : WorkerId} {slot : WorkerSlot}

/-- A slot of a sound pool is found by its number. -/
theorem found (sound : pool.Sound) (member : slot ∈ pool.slots) :
    pool.slot? slot.id = some slot :=
  sound.numbered.found member

/-- Soundness survives the change of one slot into a sound one of the same number. -/
theorem update (sound : pool.Sound) {change : WorkerSlot → WorkerSlot}
    (number : ∀ slot, (change slot).id = slot.id)
    (changed : ∀ slot, pool.slot? worker = some slot → (change slot).Sound) :
    (pool.update worker change).Sound where
  number := fun found => sound.numbered.update number found
  slot := by
    intro slot member
    obtain ⟨place, found⟩ := List.getElem?_of_mem member
    replace found : (pool.update worker change).slot? place = some slot := found
    rw [slot?_update] at found
    split at found
    next same =>
      obtain ⟨old, present, rfl⟩ := Option.map_eq_some_iff.1 found
      exact changed old (same ▸ present)
    next => exact sound.slot (mem_of_slot? found)

/-- Soundness survives a change of all slots alike. -/
theorem map (sound : pool.Sound) {change : WorkerSlot → WorkerSlot}
    (number : ∀ slot, (change slot).id = slot.id)
    (changed : ∀ slot, slot.Sound → (change slot).Sound) :
    Sound { pool with slots := pool.slots.map change } where
  number := by
    intro worker slot found
    simp only [slot?, List.getElem?_map, Option.map_eq_some_iff] at found
    obtain ⟨old, present, rfl⟩ := found
    rw [number]
    exact sound.number present
  slot := by
    intro slot member
    obtain ⟨old, present, rfl⟩ := List.mem_map.1 member
    exact changed old (sound.slot present)

/-- A pool stays sound as its workers take up their work. -/
theorem promote (sound : pool.Sound) : pool.promote.Sound :=
  sound.map (fun slot => by rw [WorkerSlot.promote_eq]) fun _ => .promote

/-- The workers at work are trusted. -/
theorem trusts_of_isActive (sound : pool.Sound) (member : slot ∈ pool.slots)
    (active : slot.isActive = true) : pool.Trusts slot.id := by
  intro other present
  rw [← Option.some.inj ((sound.found member).symm.trans present)]
  exact (sound.slot member).trusted_of_isActive active

/-- The workers at work are trusted. -/
theorem trusts_of_mem_activeDescending (sound : pool.Sound)
    (member : worker ∈ pool.activeDescending) : pool.Trusts worker := by
  obtain ⟨slot, active, rfl⟩ := List.mem_map.1 member
  obtain ⟨present, working⟩ := List.mem_filter.1 (List.mem_reverse.1 active)
  exact sound.trusts_of_isActive present working

/-- As many workers are at work as items are held. -/
theorem card_held (sound : pool.Sound) : pool.held.card = pool.activeCount := by
  have sounds : ∀ slot ∈ pool.slots, slot.Sound := fun _ => sound.slot
  unfold held gather activeCount
  rw [Multiset.coe_card, List.length_filterMap_eq_countP]
  apply List.countP_congr
  intro slot member
  rw [(sounds slot member).item]

end Sound

/-- A fresh pool is sound. -/
theorem sound_fresh (workers searchSpace : Nat) (partitioned : Bool) :
    (fresh workers searchSpace partitioned).Sound where
  number := by
    intro worker slot found
    simp only [slot?, fresh, List.getElem?_map, Option.map_eq_some_iff] at found
    obtain ⟨number, present, rfl⟩ := found
    obtain ⟨inside, same⟩ := List.getElem?_eq_some_iff.1 present
    simpa [WorkerSlot.fresh] using same.symm
  slot := by
    intro slot member
    simp only [fresh, List.mem_map] at member
    obtain ⟨number, _, rfl⟩ := member
    exact WorkerSlot.sound_fresh number

/-- A fresh pool holds nothing. -/
@[simp]
theorem held_fresh (workers searchSpace : Nat) (partitioned : Bool) :
    (fresh workers searchSpace partitioned).held = 0 := by
  simp [gather, fresh, WorkerSlot.fresh, List.filterMap_map, Function.comp_def]

end WorkerPool

end PoolArbiter
