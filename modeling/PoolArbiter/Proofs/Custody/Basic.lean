import Mathlib.Data.Multiset.UnionInter
import PoolArbiter.Proofs.Admission.Contents
import PoolArbiter.Proofs.Lifetime
import PoolArbiter.Proofs.Worker.Soundness

/-!
# Custody of items

`Accounted items live records` says that of some items each is still live or is
closed by a record of its own, and that there are no other records. `Custody`
states this of queues, a pool and the records written so far, with the items that
have left their worker and are about to be queued again or closed. The lemmas are
the moves that an item can make.
-/

namespace PoolArbiter

/-- Of some items each is live or closed by one record, and each record closes one
of them. -/
def Accounted (items live : Multiset WorkItem) (records : List Record) : Prop :=
  ∃ ended : Multiset WorkItem, items = live + ended ∧ Multiset.Rel Record.Closes records ended

namespace Accounted

variable {items live next : Multiset WorkItem} {item : WorkItem}
  {records more : List Record} {record : Record}

theorem refl (items : Multiset WorkItem) : Accounted items items [] :=
  ⟨0, by simp, .zero⟩

/-- A live item ends with a record. -/
theorem close (accounted : Accounted items (item ::ₘ live) records)
    (closes : record.Closes item) (written : more.Perm (record :: records)) :
    Accounted items live more := by
  obtain ⟨ended, same, closed⟩ := accounted
  refine ⟨item ::ₘ ended, ?_, ?_⟩
  · rw [same, Multiset.cons_add, Multiset.add_cons]
  · rw [Multiset.coe_eq_coe.2 written, ← Multiset.cons_coe]
    exact closed.cons closes

/-- New items are live. -/
theorem enter (accounted : Accounted items live records) (admitted : Multiset WorkItem) :
    Accounted (admitted + items) (admitted + live) records := by
  obtain ⟨ended, same, closed⟩ := accounted
  exact ⟨ended, by rw [same, add_assoc], closed⟩

/-- What is live after the first records is accounted for by the later ones. -/
theorem trans (earlier : Accounted items live records) (later : Accounted live next more) :
    Accounted items next (records ++ more) := by
  obtain ⟨first, same, closedFirst⟩ := earlier
  obtain ⟨second, rfl, closedSecond⟩ := later
  refine ⟨second + first, by rw [same, add_assoc], ?_⟩
  rw [← Multiset.coe_add, add_comm second]
  exact closedFirst.add closedSecond

/-- Records have the numbers of the items that they close. -/
theorem map_work_eq {records : Multiset Record} {ended : Multiset WorkItem}
    (closed : Multiset.Rel Record.Closes records ended) :
    records.map Record.work = ended.map (·.id) := by
  induction closed with
  | zero => rfl
  | cons closes _ inductionHypothesis =>
      rw [Multiset.map_cons, Multiset.map_cons, closes.work_eq, inductionHypothesis]

/-- If the numbers are distinct, no record has the number of a live item. -/
theorem work_ne (accounted : Accounted items live records)
    (distinct : (items.map (·.id)).Nodup) :
    ∀ item ∈ live, ∀ record ∈ records, record.work ≠ item.id := by
  obtain ⟨ended, rfl, closed⟩ := accounted
  rw [Multiset.map_add, Multiset.nodup_add] at distinct
  intro item alive record member same
  have named : record.work ∈ ended.map (·.id) := by
    rw [← map_work_eq closed]
    exact Multiset.mem_map_of_mem _ (Multiset.mem_coe.2 member)
  exact Multiset.disjoint_left.1 distinct.2.2 (Multiset.mem_map_of_mem _ alive) (same ▸ named)

/-- If no two items share a number, no two live ones do. -/
theorem distinct_live (accounted : Accounted items live records)
    (distinct : (items.map (·.id)).Nodup) : (live.map (·.id)).Nodup := by
  obtain ⟨ended, rfl, _⟩ := accounted
  rw [Multiset.map_add, Multiset.nodup_add] at distinct
  exact distinct.1

/-- A live item is one of the items. -/
theorem mem_of_live (accounted : Accounted items live records) (alive : item ∈ live) :
    item ∈ items := by
  obtain ⟨ended, rfl, _⟩ := accounted
  exact Multiset.mem_add.2 (.inl alive)

/-- A record is about one of the items. -/
theorem recorded (accounted : Accounted items live records) (written : record ∈ records) :
    record.work ∈ items.map (·.id) := by
  obtain ⟨ended, rfl, closed⟩ := accounted
  rw [Multiset.map_add, Multiset.mem_add, ← map_work_eq closed]
  exact .inr (Multiset.mem_map_of_mem _ (Multiset.mem_coe.2 written))

/-- If the numbers are distinct, the live items are those without a record. -/
theorem mem_live_iff (accounted : Accounted items live records)
    (distinct : (items.map (·.id)).Nodup) (work : WorkId) :
    work ∈ live.map (·.id) ↔
      work ∈ items.map (·.id) ∧ ∀ record ∈ records, record.work ≠ work := by
  constructor
  · intro member
    obtain ⟨item, alive, rfl⟩ := Multiset.mem_map.1 member
    exact ⟨Multiset.mem_map_of_mem _ (accounted.mem_of_live alive),
      accounted.work_ne distinct item alive⟩
  · rintro ⟨member, unrecorded⟩
    obtain ⟨ended, rfl, closed⟩ := accounted
    rw [Multiset.map_add, Multiset.mem_add] at member
    refine member.resolve_right fun gone => ?_
    rw [← map_work_eq closed] at gone
    obtain ⟨record, written, about⟩ := Multiset.mem_map.1 gone
    exact unrecorded record (Multiset.mem_coe.1 written) about

/-- There are no more live items than items. -/
theorem card_le (accounted : Accounted items live records) : live.card ≤ items.card := by
  obtain ⟨ended, rfl, _⟩ := accounted
  rw [Multiset.card_add]
  exact Nat.le_add_right _ _

/-- What is live in a tier is no more than what was accounted for there. -/
theorem countP_le (accounted : Accounted items live records) (tier : Tier) :
    live.countP (·.tier = tier) ≤ items.countP (·.tier = tier) := by
  obtain ⟨ended, rfl, _⟩ := accounted
  rw [Multiset.countP_add]
  exact Nat.le_add_right _ _

end Accounted

/-- The items of some queues, of a pool, on their way between the two, and closed
by records, are together the given items. -/
structure Custody (items transit : Multiset WorkItem) (queues : AdmissionQueues)
    (pool : WorkerPool) (records : List Record) : Prop where
  sound : pool.Sound
  sorted : queues.Sorted
  accounted : Accounted items (transit + (queues.contents + pool.held)) records

namespace Custody

variable {items transit : Multiset WorkItem} {queues next : AdmissionQueues}
  {pool : WorkerPool} {records more : List Record} {item : WorkItem} {record : Record}
  {worker : WorkerId} {slot : WorkerSlot} {change : WorkerSlot → WorkerSlot}

/-- The starvation guard does not matter. -/
theorem withGuard (custody : Custody items transit queues pool records)
    (guard : StarvationGuard) :
    Custody items transit { queues with guard := guard } pool records :=
  ⟨custody.sound, custody.sorted, custody.accounted⟩

/-- A worker loses its item. -/
theorem takeBack (custody : Custody items transit queues pool records)
    (found : pool.slot? worker = some slot) (holds : slot.item = some item)
    (number : ∀ slot, (change slot).id = slot.id) (sound : (change slot).Sound)
    (vacated : (change slot).item = none) :
    Custody items (item ::ₘ transit) queues (pool.update worker change) records where
  sound := custody.sound.update number fun other present => by
    obtain rfl : slot = other := Option.some.inj (found.symm.trans present)
    exact sound
  sorted := custody.sorted
  accounted := by
    have taken : pool.held = item ::ₘ (pool.update worker change).held :=
      WorkerPool.gather_of_some_none found holds vacated
    have accounted := custody.accounted
    rw [taken, Multiset.add_cons, Multiset.add_cons, ← Multiset.cons_add] at accounted
    exact accounted

/-- A slot changes and keeps what it holds. -/
theorem alter (custody : Custody items transit queues pool records)
    (found : pool.slot? worker = some slot)
    (number : ∀ slot, (change slot).id = slot.id) (sound : (change slot).Sound)
    (same : (change slot).item = slot.item) :
    Custody items transit queues (pool.update worker change) records where
  sound := custody.sound.update number fun other present => by
    obtain rfl : slot = other := Option.some.inj (found.symm.trans present)
    exact sound
  sorted := custody.sorted
  accounted := by
    have kept : (pool.update worker change).held = pool.held :=
      WorkerPool.gather_of_eq found same
    rw [kept]
    exact custody.accounted

/-- A trusted worker is idled; if it held an item, the item is on its way. -/
theorem release (custody : Custody items transit queues pool records)
    (trusts : pool.Trusts worker) :
    Custody items ((pool.itemOf? worker).elim transit (· ::ₘ transit)) queues
      (pool.release worker .idle) records := by
  unfold WorkerPool.itemOf?
  cases found : pool.slot? worker with
  | none =>
      rw [WorkerPool.release, WorkerPool.update_of_slot?_eq_none found]
      simpa using custody
  | some slot =>
      have sound := (custody.sound.slot (WorkerPool.mem_of_slot? found)).vacate_idle
        (trusts slot found)
      cases holds : slot.item with
      | none =>
          have kept : Custody items transit queues (pool.release worker .idle) records :=
            custody.alter found (fun _ => rfl) sound holds.symm
          simpa [holds] using kept
      | some item =>
          have taken : Custody items (item ::ₘ transit) queues (pool.release worker .idle)
              records :=
            custody.takeBack found holds (fun _ => rfl) sound rfl
          simpa [holds] using taken

/-- An item on its way is queued again. -/
theorem requeue (custody : Custody items (item ::ₘ transit) queues pool records)
    (accepted : queues.requeue? item = some next) :
    Custody items transit next pool records where
  sound := custody.sound
  sorted := custody.sorted.requeue? accepted
  accounted := by
    have accounted := custody.accounted
    rw [Multiset.cons_add, ← Multiset.add_cons, ← Multiset.cons_add,
      ← AdmissionQueues.contents_requeue? accepted] at accounted
    exact accounted

/-- An item on its way ends with a record. -/
theorem close (custody : Custody items (item ::ₘ transit) queues pool records)
    (closes : record.Closes item) (written : more.Perm (record :: records)) :
    Custody items transit queues pool more where
  sound := custody.sound
  sorted := custody.sorted
  accounted := by
    have accounted := custody.accounted
    rw [Multiset.cons_add] at accounted
    exact accounted.close closes written

end Custody

end PoolArbiter
