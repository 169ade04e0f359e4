import Mathlib.Data.List.Basic
import Mathlib.Data.List.Induction
import PoolArbiter.Collection

/-!
# Verdicts taken in

Of several verdicts on an item the last one counts: `KeyMap.lastValue?` reads it off the
verdicts as they came, and a map that was filled with them has it. Taking verdicts in
keeps those on items at work, charges each failed one on a published hit once, to the
worker of `Collector.charge?`, and takes away the hits that it does not spare.
-/

namespace PoolArbiter

namespace KeyMap

section LastValue

variable {κ : Type} {β : Type} [DecidableEq κ]

/-- The value that several writes leave under a key: that of the last one. -/
def lastValue? (writes : List (κ × β)) (key : κ) : Option β :=
  (writes.filterMap fun write => if write.1 = key then some write.2 else none).getLast?

/-- Of two sequences of writes the later one decides, if it writes the key. -/
theorem lastValue?_append (first second : List (κ × β)) (key : κ) :
    lastValue? (first ++ second) key = (lastValue? second key).or (lastValue? first key) := by
  rw [lastValue?, List.filterMap_append, List.getLast?_append]
  rfl

/-- A first write counts only if none follows to its key. -/
theorem lastValue?_cons (write : κ × β) (rest : List (κ × β)) (key : κ) :
    lastValue? (write :: rest) key =
      (lastValue? rest key).or (if write.1 = key then some write.2 else none) := by
  rw [← List.singleton_append, lastValue?_append]
  by_cases same : write.1 = key <;> simp [lastValue?, same]

/-- A key that is never written has no value. -/
theorem lastValue?_eq_none {writes : List (κ × β)} {key : κ}
    (absent : ∀ write ∈ writes, write.1 ≠ key) : lastValue? writes key = none := by
  rw [lastValue?, List.getLast?_eq_none_iff, List.filterMap_eq_nil_iff]
  intro write member
  exact if_neg (absent write member)

variable [LT κ] [LE κ] [Std.LawfulOrderLT κ]

/-- Each key has one entry, which is then the last one. -/
theorem lastValue?_entries (map : KeyMap κ β) (key : κ) :
    lastValue? map.entries key = map.find? key := by
  have distinct := map.distinct
  unfold find?
  generalize map.entries = entries at distinct ⊢
  induction entries with
  | nil => rfl
  | cons entry rest inductionHypothesis =>
      obtain ⟨headDistinct, restDistinct⟩ := List.pairwise_cons.1 distinct
      rw [lastValue?_cons, List.lookup_cons]
      by_cases same : entry.1 = key
      · subst same
        have absent := lastValue?_eq_none fun later member => (headDistinct later member).symm
        simp [absent]
      · have other : (key == entry.1) = false := by simpa using Ne.symm same
        rw [inductionHypothesis restDistinct, if_neg same, Option.or_none, other]

variable [DecidableLT κ] [Std.IsLinearOrder κ]

/-- A map that is filled entry by entry has the last value under each key. -/
theorem find?_ofList (writes : List (κ × β)) (key : κ) :
    (ofList writes).find? key = lastValue? writes key := by
  rw [ofList]
  induction writes using List.reverseRecOn with
  | nil => rfl
  | append_singleton earlier write inductionHypothesis =>
      rw [List.foldl_append, List.foldl_cons, List.foldl_nil, find?_insert, inductionHypothesis,
        lastValue?_append, lastValue?_cons]
      by_cases same : key = write.1
      · simp [same, lastValue?]
      · simp [same, Ne.symm same, lastValue?]

end LastValue

end KeyMap

namespace Recent

variable {α : Type} {record : Recent α} {keep other : α → Bool}

/-- Retaining filters the items. -/
theorem items_retain (record : Recent α) (keep : α → Bool) :
    (record.retain keep).items = record.items.filter keep :=
  rfl

/-- What is retained depends on the items of the record only. -/
theorem retain_congr (same : ∀ item ∈ record.items, keep item = other item) :
    record.retain keep = record.retain other := by
  unfold retain
  congr 1
  exact List.filter_congr same

/-- A record stays as it is if all its items are kept. -/
theorem retain_eq_self (all : ∀ item ∈ record.items, keep item = true) :
    record.retain keep = record := by
  cases record
  unfold retain
  congr 1
  exact List.filter_eq_self.2 all

/-- Retaining twice keeps what both tests keep. -/
theorem retain_retain (record : Recent α) (keep other : α → Bool) :
    (record.retain keep).retain other = record.retain fun item => keep item && other item := by
  unfold retain
  simp only [List.filter_filter, Bool.and_comm]

end Recent

namespace Collector

variable {inFlight : List WorkId} {collector : Collector}

section Keeping

/-- A verdict is remembered exactly if its item is at work. -/
theorem verdicts_recordVerdict (inFlight : List WorkId) (state : Collector × List WorkerId)
    (verdict : WorkId × Bool) :
    (recordVerdict inFlight state verdict).1.verdicts =
      if verdict.1 ∈ inFlight then state.1.verdicts.insert verdict.1 verdict.2
      else state.1.verdicts := by
  unfold recordVerdict
  simp only [List.contains_iff_mem]
  split
  · rfl
  · split <;> rfl

/-- The newest verdict on an item at work is kept; the others come to nothing. -/
theorem find?_foldl_recordVerdict (verdicts : List (WorkId × Bool))
    (state : Collector × List WorkerId) (work : WorkId) :
    (verdicts.foldl (recordVerdict inFlight) state).1.verdicts.find? work =
      if work ∈ inFlight then
        (KeyMap.lastValue? verdicts work).or (state.1.verdicts.find? work)
      else state.1.verdicts.find? work := by
  induction verdicts generalizing state with
  | nil => simp [KeyMap.lastValue?]
  | cons verdict rest inductionHypothesis =>
      rw [List.foldl_cons, inductionHypothesis, verdicts_recordVerdict, KeyMap.lastValue?_cons]
      by_cases same : work = verdict.1
      · subst same
        split
        · rw [KeyMap.find?_insert, if_pos rfl, if_pos rfl, Option.or_assoc, Option.some_or]
        · rfl
      · have other : ¬verdict.1 = work := fun equal => same equal.symm
        rw [if_neg other, Option.or_none]
        split <;> split <;> simp [KeyMap.find?_insert, same]

/-- After a batch of verdicts the newest one is remembered for each item at work. -/
theorem find?_recordVerdicts (collector : Collector) (verdicts : KeyMap WorkId Bool)
    (pool : WorkerPool) (work : WorkId) :
    (collector.recordVerdicts verdicts pool).1.verdicts.find? work =
      if work ∈ pool.worksInFlight then
        (verdicts.find? work).or (collector.verdicts.find? work)
      else collector.verdicts.find? work := by
  rw [recordVerdicts, find?_foldl_recordVerdict, KeyMap.lastValue?_entries]

end Keeping

section Charging

/-- Whether a verdict is charged: it failed, its item is not at work, and the hit on it is
among those published last. -/
def charges (collector : Collector) (inFlight : List WorkId) (verdict : WorkId × Bool) : Bool :=
  !verdict.2 && !inFlight.contains verdict.1 &&
    (collector.recentHits.items.lookup verdict.1).isSome

/-- A hit that is looked up is among the recent ones. -/
theorem mem_recentHits {work : WorkId} {worker : WorkerId}
    (published : collector.recentHits.items.lookup work = some worker) :
    (work, worker) ∈ collector.recentHits.items := by
  obtain ⟨before, after, split, _⟩ := List.lookup_eq_some_iff.1 published
  rw [split]
  exact List.mem_append_right _ List.mem_cons_self

/-- The item of a recent hit is found. -/
theorem exists_lookup_of_mem {hit : WorkId × WorkerId}
    (recent : hit ∈ collector.recentHits.items) :
    ∃ worker, collector.recentHits.items.lookup hit.1 = some worker := by
  rw [← Option.ne_none_iff_exists']
  intro absent
  simpa using List.lookup_eq_none_iff.1 absent hit recent

/-- Taking out the hits of one item leaves those of the others. -/
theorem lookup_retain_ne (hits : Recent (WorkId × WorkerId)) {work other : WorkId}
    (different : other ≠ work) :
    (hits.retain fun hit => hit.1 != work).items.lookup other = hits.items.lookup other := by
  unfold Recent.retain
  dsimp only
  induction hits.items with
  | nil => rfl
  | cons hit rest inductionHypothesis =>
      rw [List.filter_cons, List.lookup_cons]
      by_cases same : hit.1 = work
      · have skipped : (other == hit.1) = false := by simpa [same] using different
        rw [if_neg (by simpa using same), inductionHypothesis, skipped]
      · rw [if_pos (by simpa using same), List.lookup_cons, inductionHypothesis]

/-- Charging a hit leaves the others. -/
theorem lookup_recordVerdict (state : Collector × List WorkerId) {verdict : WorkId × Bool}
    {other : WorkId} (different : verdict.1 ≠ other) :
    (recordVerdict inFlight state verdict).1.recentHits.items.lookup other =
      state.1.recentHits.items.lookup other := by
  unfold recordVerdict
  dsimp only
  split
  · rfl
  · split
    · exact lookup_retain_ne _ (Ne.symm different)
    · rfl

/-- Charging a hit leaves the others to be charged. -/
theorem charges_recordVerdict (state : Collector × List WorkerId) {verdict other : WorkId × Bool}
    (different : verdict.1 ≠ other.1) :
    (recordVerdict inFlight state verdict).1.charges inFlight other =
      state.1.charges inFlight other := by
  unfold charges
  rw [lookup_recordVerdict state different]

/-- The charge for a verdict: if it failed, its item is not at work and the hit on it is among
those published last, the worker of the hit is charged. -/
def charge? (collector : Collector) (inFlight : List WorkId) (verdict : WorkId × Bool) :
    Option (WorkId × WorkerId) :=
  if collector.charges inFlight verdict then
    (collector.recentHits.items.lookup verdict.1).map (verdict.1, ·)
  else none

/-- A verdict charges a worker if it rejects a recent hit of that worker whose item is not at work.
-/
theorem charge?_eq_some {verdict : WorkId × Bool} {charge : WorkId × WorkerId} :
    collector.charge? inFlight verdict = some charge ↔
      verdict = (charge.1, false) ∧ charge.1 ∉ inFlight ∧
        collector.recentHits.items.lookup charge.1 = some charge.2 := by
  rw [charge?, Option.ite_none_right_eq_some, Option.map_eq_some_iff]
  constructor
  · rintro ⟨charged, worker, published, rfl⟩
    simp only [charges, Bool.and_eq_true, Bool.not_eq_true', List.contains_eq_mem,
      decide_eq_false_iff_not] at charged
    exact ⟨Prod.ext rfl charged.1.1, charged.1.2, published⟩
  · rintro ⟨rfl, idle, published⟩
    exact ⟨by simp [charges, idle, published], charge.2, published, rfl⟩

/-- A verdict charges a worker exactly if the test says so. -/
theorem isSome_charge? (collector : Collector) (inFlight : List WorkId)
    (verdict : WorkId × Bool) :
    (collector.charge? inFlight verdict).isSome = collector.charges inFlight verdict := by
  rw [charge?]
  split
  next charged =>
    rw [charged]
    simp only [charges, Bool.and_eq_true] at charged
    rw [Option.isSome_map, charged.2]
  next uncharged =>
    rw [Bool.not_eq_true] at uncharged
    rw [uncharged, Option.isSome_none]

/-- Settling a verdict charges the worker of its charge. -/
theorem late_recordVerdict (state : Collector × List WorkerId) (verdict : WorkId × Bool) :
    (recordVerdict inFlight state verdict).2 =
      state.2 ++ (state.1.charge? inFlight verdict).toList.map (·.2) := by
  obtain ⟨work, valid⟩ := verdict
  unfold recordVerdict charge? charges
  dsimp only
  by_cases working : work ∈ inFlight
  · simp [working]
  · cases valid <;> cases state.1.recentHits.items.lookup work <;> simp [working]

/-- Settling a verdict leaves the charges for the others. -/
theorem charge?_recordVerdict (state : Collector × List WorkerId) {verdict other : WorkId × Bool}
    (different : verdict.1 ≠ other.1) :
    (recordVerdict inFlight state verdict).1.charge? inFlight other =
      state.1.charge? inFlight other := by
  unfold charge?
  rw [charges_recordVerdict state different, lookup_recordVerdict state different]

/-- Verdicts on different items charge the workers that each of them charges alone. -/
theorem late_foldl_recordVerdict {verdicts : List (WorkId × Bool)}
    (distinct : verdicts.Pairwise fun earlier later => earlier.1 ≠ later.1)
    (state : Collector × List WorkerId) :
    (verdicts.foldl (recordVerdict inFlight) state).2 =
      state.2 ++ (verdicts.filterMap (state.1.charge? inFlight)).map (·.2) := by
  induction verdicts generalizing state with
  | nil => simp
  | cons verdict rest inductionHypothesis =>
      obtain ⟨headDistinct, restDistinct⟩ := List.pairwise_cons.1 distinct
      have same : rest.filterMap ((recordVerdict inFlight state verdict).1.charge? inFlight) =
          rest.filterMap (state.1.charge? inFlight) :=
        List.filterMap_congr fun other member =>
          charge?_recordVerdict state (headDistinct other member)
      rw [List.foldl_cons, inductionHypothesis restDistinct, late_recordVerdict, same,
        List.filterMap_cons]
      cases state.1.charge? inFlight verdict <;> simp

/-- The failures that are charged late are charged to the workers of their charges. -/
theorem late_recordVerdicts (collector : Collector) (verdicts : KeyMap WorkId Bool)
    (pool : WorkerPool) :
    (collector.recordVerdicts verdicts pool).2 =
      (verdicts.entries.filterMap (collector.charge? pool.worksInFlight)).map (·.2) := by
  rw [recordVerdicts, late_foldl_recordVerdict verdicts.distinct, List.nil_append]

/-- There is one late failure for each verdict that charges a worker. -/
theorem length_foldl_recordVerdict {verdicts : List (WorkId × Bool)}
    (distinct : verdicts.Pairwise fun earlier later => earlier.1 ≠ later.1)
    (state : Collector × List WorkerId) :
    (verdicts.foldl (recordVerdict inFlight) state).2.length =
      state.2.length + verdicts.countP (state.1.charges inFlight) := by
  rw [late_foldl_recordVerdict distinct, List.length_append, List.length_map,
    List.length_filterMap_eq_countP]
  simp only [isSome_charge?]

/-- As many failures are charged late as there are failed verdicts on hits published
last. -/
theorem length_recordVerdicts (collector : Collector) (verdicts : KeyMap WorkId Bool)
    (pool : WorkerPool) :
    (collector.recordVerdicts verdicts pool).2.length =
      verdicts.entries.countP (collector.charges pool.worksInFlight) := by
  rw [recordVerdicts, length_foldl_recordVerdict verdicts.distinct, List.length_nil, Nat.zero_add]

end Charging

section Taking

/-- Whether verdicts leave a hit among those published last: its item is at work, or none
of the verdicts on it has failed. -/
def spares (inFlight : List WorkId) (verdicts : List (WorkId × Bool))
    (hit : WorkId × WorkerId) : Bool :=
  inFlight.contains hit.1 || !verdicts.contains (hit.1, false)

/-- A recent hit is spared if its item is at work or no verdict rejects it. -/
theorem spares_iff {verdicts : List (WorkId × Bool)} {hit : WorkId × WorkerId} :
    spares inFlight verdicts hit = true ↔ hit.1 ∈ inFlight ∨ (hit.1, false) ∉ verdicts := by
  simp [spares]

/-- A verdict takes out the hits that it does not spare. -/
theorem recentHits_recordVerdict (inFlight : List WorkId) (state : Collector × List WorkerId)
    (verdict : WorkId × Bool) :
    (recordVerdict inFlight state verdict).1.recentHits =
      state.1.recentHits.retain (spares inFlight [verdict]) := by
  obtain ⟨work, valid⟩ := verdict
  unfold recordVerdict
  dsimp only
  split
  next working =>
    refine (Recent.retain_eq_self fun hit _ => spares_iff.2 ?_).symm
    by_cases same : hit.1 = work
    · exact .inl (by simpa [same] using working)
    · exact .inr (by simp [same])
  next idle =>
    split
    next worker published failed =>
      refine Recent.retain_congr fun hit _ => ?_
      rw [Bool.eq_iff_iff, spares_iff]
      by_cases same : hit.1 = work
      · simpa [same] using idle
      · simp [same]
    next uncharged =>
      -- A failed verdict comes here only if no hit is on its item.
      refine (Recent.retain_eq_self fun hit member => spares_iff.2 (.inr ?_)).symm
      intro failed
      obtain ⟨rfl, rfl⟩ := Prod.mk.inj (List.mem_singleton.1 failed)
      obtain ⟨worker, published⟩ := exists_lookup_of_mem member
      exact uncharged worker published rfl

/-- Several verdicts take away the hits that they do not spare. -/
theorem recentHits_foldl_recordVerdict (verdicts : List (WorkId × Bool))
    (state : Collector × List WorkerId) :
    (verdicts.foldl (recordVerdict inFlight) state).1.recentHits =
      state.1.recentHits.retain (spares inFlight verdicts) := by
  induction verdicts generalizing state with
  | nil => exact (Recent.retain_eq_self fun hit _ => spares_iff.2 (.inr List.not_mem_nil)).symm
  | cons verdict rest inductionHypothesis =>
      rw [List.foldl_cons, inductionHypothesis, recentHits_recordVerdict, Recent.retain_retain]
      refine Recent.retain_congr fun hit _ => ?_
      rw [Bool.eq_iff_iff, Bool.and_eq_true, spares_iff, spares_iff, spares_iff,
        List.mem_singleton, List.mem_cons]
      tauto

/-- Verdicts change of a collector the verdicts that it keeps and the hits published
last. -/
theorem foldl_recordVerdict_eq (verdicts : List (WorkId × Bool))
    (state : Collector × List WorkerId) :
    (verdicts.foldl (recordVerdict inFlight) state).1 =
      { state.1 with
        verdicts := (verdicts.foldl (recordVerdict inFlight) state).1.verdicts
        recentHits := state.1.recentHits.retain (spares inFlight verdicts) } := by
  rw [← recentHits_foldl_recordVerdict]
  refine List.foldlRecOn (motive := fun later : Collector × List WorkerId =>
    later.1 = { state.1 with
      verdicts := later.1.verdicts, recentHits := later.1.recentHits }) verdicts _ rfl ?_
  rintro ⟨collector, late⟩ same verdict _
  unfold recordVerdict
  dsimp only at same ⊢
  rw [same]
  split
  · rfl
  · split <;> rfl

end Taking

end Collector

end PoolArbiter
