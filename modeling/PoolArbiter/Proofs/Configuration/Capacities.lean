import PoolArbiter.Proofs.Admission.Room
import PoolArbiter.Proofs.Collection.Delivery
import PoolArbiter.Proofs.Configuration.Tests

/-!
# Capacities of single tiers

An entry of the configuration names a tier in any mix of capitals and small letters, and it is
accepted whatever the letters are. The capacity of a tier is looked up under its own name, which
is in small letters. So an entry takes effect exactly if `Configuration.IsFound` holds of it.
The capacity that is looked up is what an empty tier admits, `AdmissionQueues.AdmitsUpTo`.
-/

namespace PoolArbiter

namespace AdmissionQueues

variable {queues : AdmissionQueues} {tier : Tier}

section Offers

/-- The queues after an item was offered to them. An item that is refused leaves them as they
are. -/
def offer (queues : AdmissionQueues) (item : WorkItem) : AdmissionQueues :=
  (queues.enqueue item).toOption.getD queues

/-- The queues after items were offered to them, one after the other. -/
def offerAll (queues : AdmissionQueues) (items : List WorkItem) : AdmissionQueues :=
  items.foldl offer queues

/-- Nothing but a lack of room keeps an item out of a tier. -/
def Suits (queues : AdmissionQueues) (tier : Tier) (item : WorkItem) : Prop :=
  item.tier = tier ∧ item.payload.fault? queues.payloadLimit = none

instance (queues : AdmissionQueues) (tier : Tier) : DecidablePred (queues.Suits tier) :=
  fun _ => inferInstanceAs (Decidable (_ ∧ _))

/-- Of the items that suit a tier it holds the first ones up to a limit, and it refuses the
next one exactly if the limit was reached. -/
structure AdmitsUpTo (queues : AdmissionQueues) (tier : Tier) (limit : Nat) : Prop where
  depth : ∀ items,
    (queues.offerAll items).depth tier = min limit (items.countP (queues.Suits tier))
  admits : ∀ items item, queues.Suits tier item → items.countP (queues.Suits tier) < limit →
    ∃ next, (queues.offerAll items).enqueue item = .ok next
  refuses : ∀ items item, queues.Suits tier item → limit ≤ items.countP (queues.Suits tier) →
    (queues.offerAll items).enqueue item = .error (.queueFull tier)

/-- An item that suits a tier is refused only if the tier is full. -/
theorem enqueue_of_suits {item : WorkItem} (suits : queues.Suits tier item) :
    queues.enqueue item =
      if queues.capacity tier ≤ queues.depth tier then .error (.queueFull tier)
      else .ok (queues.withItems tier (queues.items tier ++ [item])) := by
  obtain ⟨rfl, acceptable⟩ := suits
  rw [enqueue, acceptable]

/-- An item that is admitted suits its queue. -/
theorem suits_of_enqueue {item : WorkItem} {next : AdmissionQueues}
    (accepted : queues.enqueue item = .ok next) : queues.Suits item.tier item := by
  unfold enqueue at accepted
  split at accepted
  next => cases accepted
  next acceptable => exact ⟨rfl, acceptable⟩

/-- Offering an item does not change a capacity. -/
theorem capacity_offer (queues : AdmissionQueues) (item : WorkItem) (tier : Tier) :
    (queues.offer item).capacity tier = queues.capacity tier := by
  unfold offer
  cases enqueued : queues.enqueue item with
  | error refusal => rfl
  | ok next =>
      rw [enqueue_eq_ok enqueued]
      exact capacity_withItems _ _ _ _

/-- Offering an item does not change the limit of the payloads. -/
theorem payloadLimit_offer (queues : AdmissionQueues) (item : WorkItem) :
    (queues.offer item).payloadLimit = queues.payloadLimit := by
  unfold offer
  cases enqueued : queues.enqueue item with
  | error refusal => rfl
  | ok next =>
      rw [enqueue_eq_ok enqueued]
      rfl

/-- Offering an item does not change what suits the queues. -/
theorem suits_offer (queues : AdmissionQueues) (item : WorkItem) (tier : Tier) :
    (queues.offer item).Suits tier = queues.Suits tier := by
  funext other
  rw [Suits, Suits, payloadLimit_offer]

/-- A tier gets longer by an item that suits it, up to its capacity, and by no other item. -/
theorem depth_offer (queues : AdmissionQueues) (item : WorkItem) (tier : Tier)
    (bounded : queues.depth tier ≤ queues.capacity tier) :
    (queues.offer item).depth tier =
      min (queues.capacity tier) (queues.depth tier + if queues.Suits tier item then 1 else 0) := by
  unfold offer
  by_cases suits : queues.Suits tier item
  · rw [enqueue_of_suits suits, if_pos suits]
    split
    next full =>
      rw [min_eq_left (by omega)]
      exact Nat.le_antisymm bounded full
    next room =>
      rw [min_eq_right (by omega)]
      change (queues.withItems tier (queues.items tier ++ [item])).depth tier = _
      rw [depth, items_withItems, if_pos rfl, List.length_append, List.length_singleton, depth]
  · rw [if_neg suits, Nat.add_zero, min_eq_right bounded]
    cases enqueued : queues.enqueue item with
    | error refusal => rfl
    | ok next =>
        have other : tier ≠ item.tier := by
          rintro rfl
          exact suits (suits_of_enqueue enqueued)
        rw [enqueue_eq_ok enqueued]
        change (queues.withItems item.tier (queues.items item.tier ++ [item])).depth tier = _
        rw [depth, items_withItems, if_neg other, depth]

/-- Offers keep the capacity of a tier and what suits it, and they fill it up to the capacity. -/
theorem offerAll_spec (items : List WorkItem) (tier : Tier)
    (bounded : queues.depth tier ≤ queues.capacity tier) :
    (queues.offerAll items).Suits tier = queues.Suits tier ∧
      (queues.offerAll items).capacity tier = queues.capacity tier ∧
      (queues.offerAll items).depth tier =
        min (queues.capacity tier) (queues.depth tier + items.countP (queues.Suits tier)) := by
  induction items generalizing queues with
  | nil => exact ⟨rfl, rfl, (min_eq_right bounded).symm⟩
  | cons item rest inductionHypothesis =>
      have depth := queues.depth_offer item tier bounded
      have boundedNext : (queues.offer item).depth tier ≤ (queues.offer item).capacity tier := by
        rw [depth, capacity_offer]
        exact min_le_left _ _
      obtain ⟨sameSuits, sameCapacity, restDepth⟩ := inductionHypothesis boundedNext
      refine ⟨sameSuits.trans (suits_offer queues item tier),
        sameCapacity.trans (capacity_offer queues item tier), restDepth.trans ?_⟩
      have count : (item :: rest).countP (queues.Suits tier) =
          rest.countP (queues.Suits tier) + if queues.Suits tier item then 1 else 0 := by
        simp [List.countP_cons]
      have restCount : rest.countP ((queues.offer item).Suits tier) =
          rest.countP (queues.Suits tier) :=
        List.countP_congr fun other _ => by simp [suits_offer]
      rw [count, restCount, depth, capacity_offer]
      omega

/-- An empty tier admits items up to its capacity. -/
theorem admitsUpTo_capacity (empty : queues.depth tier = 0) :
    queues.AdmitsUpTo tier (queues.capacity tier) := by
  have filled (items : List WorkItem) := queues.offerAll_spec items tier (by omega)
  refine ⟨fun items => ?_, fun items item suits room => ?_, fun items item suits full => ?_⟩
  · obtain ⟨_, _, depth⟩ := filled items
    rw [depth, empty, Nat.zero_add]
  · obtain ⟨sameSuits, capacity, depth⟩ := filled items
    rw [← sameSuits] at suits
    rw [enqueue_of_suits suits, capacity, depth, empty, if_neg (by omega)]
    exact ⟨_, rfl⟩
  · obtain ⟨sameSuits, capacity, depth⟩ := filled items
    rw [← sameSuits] at suits
    rw [enqueue_of_suits suits, capacity, depth, empty, if_pos (by omega)]

end Offers

end AdmissionQueues

namespace Tier

/-- A text names a tier if its small letters are the name of the tier. -/
theorem ofText?_eq_some_iff {text : String} {tier : Tier} :
    ofText? text = some tier ↔ text.toLower = tier.name := by
  unfold ofText?
  constructor
  · intro named
    have same : (tier.name == text.toLower) = true :=
      List.find?_some (p := fun tier : Tier => tier.name == text.toLower) named
    exact (eq_of_beq same).symm
  · intro lower
    rw [lower, ofName?_name]

/-- The names of the tiers are in small letters. -/
theorem toLower_name (tier : Tier) : tier.name.toLower = tier.name := by
  cases tier <;> decide +kernel

end Tier

namespace Configuration

variable {config : Configuration}

/-- A tier has a capacity: it is looked up for the tier, and the queues that are built from the
configuration admit items up to it, whatever their window and their greatest payload are. -/
structure Grants (config : Configuration) (tier : Tier) (capacity : Nat) : Prop where
  capacityFor : config.queues.capacityFor tier = capacity
  admitsUpTo : ∀ window payloadLimit,
    (AdmissionQueues.fresh config.queues window payloadLimit).AdmitsUpTo tier capacity

/-- Every entry gives its capacity to the tier that it names, and a tier that no entry names has
the common capacity. -/
structure HonoursCapacities (config : Configuration) : Prop where
  entries : ∀ entry ∈ config.queues.tierCapacity.entries,
    ∃ tier, Tier.ofText? entry.1 = some tier ∧ config.Grants tier entry.2
  others : ∀ tier,
    (∀ entry ∈ config.queues.tierCapacity.entries, Tier.ofText? entry.1 ≠ some tier) →
    config.Grants tier config.queues.capacity

/-- An entry is written in small letters, or what is written in small letters agrees with it. -/
inductive IsFound (config : Configuration) (entry : String × Nat) : Prop where
  | lower (small : entry.1.toLower = entry.1)
  | repeated (present : (entry.1.toLower, entry.2) ∈ config.queues.tierCapacity.entries)
  | common (absent : ∀ capacity,
      (entry.1.toLower, capacity) ∉ config.queues.tierCapacity.entries)
      (same : config.queues.capacity = entry.2)

/-- A tier is granted the capacity that is looked up for it. -/
theorem grants_iff (config : Configuration) (tier : Tier) (capacity : Nat) :
    config.Grants tier capacity ↔ config.queues.capacityFor tier = capacity := by
  refine ⟨fun grants => grants.capacityFor, ?_⟩
  rintro rfl
  refine ⟨rfl, fun window payloadLimit => ?_⟩
  have built : (AdmissionQueues.fresh config.queues window payloadLimit).capacity tier =
      config.queues.capacityFor tier := (AdmissionQueues.fits_fresh _ _ _).capacity tier
  rw [← built]
  refine AdmissionQueues.admitsUpTo_capacity ?_
  simp [AdmissionQueues.depth, AdmissionQueues.items, AdmissionQueues.fresh]

/-- An entry gives its capacity to the tier that it names exactly if it is found. -/
theorem capacityFor_eq_iff {entry : String × Nat} {tier : Tier}
    (present : entry ∈ config.queues.tierCapacity.entries)
    (named : Tier.ofText? entry.1 = some tier) :
    config.queues.capacityFor tier = entry.2 ↔ config.IsFound entry := by
  rw [Tier.ofText?_eq_some_iff] at named
  unfold QueueSettings.capacityFor
  rw [← named]
  constructor
  · intro same
    cases found : config.queues.tierCapacity.find? entry.1.toLower with
    | none =>
        rw [found] at same
        refine .common (fun capacity present => ?_) same
        rw [KeyMap.mem_entries_iff, found] at present
        cases present
    | some capacity =>
        rw [found] at same
        refine .repeated (KeyMap.mem_entries_iff.2 (found.trans (congrArg some ?_)))
        exact same
  · intro found
    cases found with
    | lower small => rw [small, KeyMap.mem_entries_iff.1 present, Option.getD_some]
    | repeated present => rw [KeyMap.mem_entries_iff.1 present, Option.getD_some]
    | common absent same =>
        have missing : config.queues.tierCapacity.find? entry.1.toLower = none := by
          refine Option.eq_none_iff_forall_not_mem.2 fun capacity found => ?_
          exact absent capacity (KeyMap.mem_entries_iff.2 found)
        rw [missing, Option.getD_none, same]

/-- A tier that no entry names has the common capacity. -/
theorem capacityFor_of_unnamed {tier : Tier}
    (unnamed : ∀ entry ∈ config.queues.tierCapacity.entries,
      Tier.ofText? entry.1 ≠ some tier) :
    config.queues.capacityFor tier = config.queues.capacity := by
  have missing : config.queues.tierCapacity.find? tier.name = none := by
    refine Option.eq_none_iff_forall_not_mem.2 fun capacity found => ?_
    refine unnamed (tier.name, capacity) (KeyMap.mem_entries_iff.2 found) ?_
    exact Tier.ofText?_eq_some_iff.2 tier.toLower_name
  rw [QueueSettings.capacityFor, missing, Option.getD_none]

/-- The entries of an accepted configuration take effect exactly if all of them are found. -/
theorem honoursCapacities_iff (accepted : config.IsAccepted) :
    config.HonoursCapacities ↔
      ∀ entry ∈ config.queues.tierCapacity.entries, config.IsFound entry := by
  constructor
  · intro honours entry present
    obtain ⟨tier, named, grants⟩ := honours.entries entry present
    exact (capacityFor_eq_iff present named).1 grants.capacityFor
  · intro found
    refine ⟨fun entry present => ?_, fun tier unnamed => ?_⟩
    · obtain ⟨⟨tier, named⟩, _⟩ := accepted.passes.entries entry present
      exact ⟨tier, named, (grants_iff _ _ _).2
        ((capacityFor_eq_iff present named).2 (found entry present))⟩
    · exact (grants_iff _ _ _).2 (capacityFor_of_unnamed unnamed)

/-- Two entries are in small letters, one of the others repeats the second of them, and one names
the common capacity. -/
theorem honoursCapacities_of_four_entries :
    let config : Configuration :=
      { queues :=
          { tierCapacity :=
              .ofList [("critical", 8), ("medium", 4), ("Medium", 4), ("LOW", 256)] } }
    config.IsAccepted ∧ config.HonoursCapacities := by
  intro config
  have accepted : config.IsAccepted := by
    unfold IsAccepted
    decide +kernel
  have entries : config.queues.tierCapacity.entries =
      [("LOW", 256), ("Medium", 4), ("critical", 8), ("medium", 4)] := by
    decide +kernel
  have found : ∀ entry ∈ config.queues.tierCapacity.entries, config.IsFound entry := by
    have low : "LOW".toLower = "low" := by decide +kernel
    have medium : "Medium".toLower = "medium" := by decide +kernel
    simp only [entries, List.forall_mem_cons, List.not_mem_nil, false_imp_iff, implies_true,
      and_true]
    refine ⟨.common (fun capacity => ?_) rfl, .repeated ?_, .lower ?_, .lower ?_⟩
    · simp [entries, low]
    · simp [entries, medium]
    · decide +kernel
    · decide +kernel
  exact ⟨accepted, (honoursCapacities_iff accepted).2 found⟩

/-- An entry in other letters is accepted and does not take effect. -/
theorem not_forall_accepted_honoursCapacities :
    ¬∀ config : Configuration, config.IsAccepted → config.HonoursCapacities := by
  intro honours
  let config : Configuration := { queues := { tierCapacity := .ofList [("CRITICAL", 7)] } }
  have accepted : config.IsAccepted := by
    unfold IsAccepted
    decide +kernel
  have present : ("CRITICAL", 7) ∈ config.queues.tierCapacity.entries := by
    decide +kernel
  obtain ⟨tier, named, grants⟩ := (honours config accepted).entries _ present
  have known : Tier.ofText? "CRITICAL" = some .critical := by
    decide +kernel
  obtain rfl : tier = .critical := Option.some.inj (named.symm.trans known)
  have capacity : config.queues.capacityFor .critical = 256 := by
    decide +kernel
  have granted := grants.capacityFor
  rw [capacity] at granted
  cases granted

end Configuration

end PoolArbiter
