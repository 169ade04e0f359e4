import Mathlib.Data.Prod.Lex
import PoolArbiter.Proofs.Floats.Bits
import PoolArbiter.Proofs.Selection.Choice
import PoolArbiter.Proofs.Worker.Working

/-!
# The order of a policy

A policy ranks the eligible slots: round robin by the turns until a worker is next,
the other policies by what they measure, and each of them by the number of the worker
where that leaves a tie. `Policy.ranking` is the eligible slots in this order.

A policy chooses the first worker of its ranking and leaves the others in their order,
also where choosing moves the cursor. `Policy.ranking_eq_cons` says both: what is left of
the ranking is the ranking of what is left.
-/

namespace PoolArbiter

section Least

variable {α κ : Type} [LinearOrder κ] {key : α → κ} {before : α → α → Bool} {items : List α}

/-- The best of a champion and its challengers comes before all of its key. -/
theorem exists_split_foldl_better
    (compares : ∀ first second, before first second = decide (key first < key second))
    (champion : α) :
    ∃ earlier later, champion :: items = earlier ++ items.foldl (better before) champion :: later ∧
      (∀ item ∈ earlier, key (items.foldl (better before) champion) < key item) ∧
      ∀ item ∈ later, key (items.foldl (better before) champion) ≤ key item := by
  induction items generalizing champion with
  | nil => exact ⟨[], [], rfl, by simp, by simp⟩
  | cons challenger rest inductionHypothesis =>
      rw [List.foldl_cons, better, compares]
      -- A challenger that wins leaves the champion before the best one. A challenger that loses
      -- takes its place right after the champion, wherever the champion ends up.
      split
      next wins =>
        have less := of_decide_eq_true wins
        obtain ⟨earlier, later, split, greater, atLeast⟩ := inductionHypothesis challenger
        have best : key (rest.foldl (better before) challenger) ≤ key challenger := by
          have member : challenger ∈ challenger :: rest := List.mem_cons_self
          rw [split] at member
          rcases List.mem_append.1 member with early | late
          · exact (greater challenger early).le
          · rcases List.mem_cons.1 late with same | behind
            · exact (congrArg key same).ge
            · exact atLeast challenger behind
        refine ⟨champion :: earlier, later, ?_, ?_, atLeast⟩
        · rw [split, List.cons_append]
        · exact List.forall_mem_cons.2 ⟨best.trans_lt less, greater⟩
      next loses =>
        have atMost : key champion ≤ key challenger := not_lt.1 (mt decide_eq_true loses)
        obtain ⟨earlier, later, split, greater, atLeast⟩ := inductionHypothesis champion
        cases earlier with
        | nil =>
            obtain ⟨same, rfl⟩ := List.cons.inj split
            rw [← same] at atLeast ⊢
            exact ⟨[], challenger :: rest, rfl, by simp,
              List.forall_mem_cons.2 ⟨atMost, atLeast⟩⟩
        | cons first others =>
            obtain ⟨rfl, remaining⟩ := List.cons.inj split
            obtain ⟨less, greater⟩ := List.forall_mem_cons.1 greater
            refine ⟨champion :: challenger :: others, later,
              congrArg (champion :: challenger :: ·) remaining, ?_, atLeast⟩
            exact List.forall_mem_cons.2
              ⟨less, List.forall_mem_cons.2 ⟨less.trans_le atMost, greater⟩⟩

/-- Where elements are compared by a key, the least one is the first of its key, and no key is
less. -/
theorem exists_split_leastBy? {least : α}
    (compares : ∀ first second, before first second = decide (key first < key second))
    (found : leastBy? before items = some least) :
    ∃ earlier later, items = earlier ++ least :: later ∧
      (∀ item ∈ earlier, key least < key item) ∧ ∀ item ∈ later, key least ≤ key item := by
  cases items with
  | nil => cases found
  | cons first rest =>
      obtain rfl := Option.some.inj found
      exact exists_split_foldl_better compares first

/-- A comparison by keys finds a least key. -/
theorem key_leastBy?_le {least : α}
    (compares : ∀ first second, before first second = decide (key first < key second))
    (found : leastBy? before items = some least) : ∀ item ∈ items, key least ≤ key item := by
  obtain ⟨earlier, later, rfl, greater, atLeast⟩ := exists_split_leastBy? compares found
  intro item member
  rcases List.mem_append.1 member with early | late
  · exact (greater item early).le
  · rcases List.mem_cons.1 late with rfl | behind
    · exact le_rfl
    · exact atLeast item behind

end Least

namespace WorkerPool

variable {pool : WorkerPool} {worker : WorkerId} {slot : WorkerSlot}
  {change : WorkerSlot → WorkerSlot}

/-- A slot that is not eligible any more is the only one that is missing. -/
theorem perm_eligibleSlots_update (found : pool.slot? worker = some slot)
    (eligible : slot.isEligible = true) (busy : (change slot).isEligible = false) :
    pool.eligibleSlots.Perm (slot :: (pool.update worker change).eligibleSlots) := by
  obtain ⟨before, after, slots, updated⟩ := exists_split found
  simp only [eligibleSlots, slots, updated, List.filter_append, List.filter_cons, eligible, busy,
    if_true, Bool.false_eq_true, if_false]
  exact List.perm_middle

end WorkerPool

namespace Policy

section Turns

variable {size cursor worker : Nat}

/-- The workers that are passed, going round from the cursor, before a worker is next. -/
def turnsUntil (size cursor worker : Nat) : Nat :=
  (worker + (size - cursor % size)) % size

/-- The number of turns until a worker is the distance that reaches it. -/
theorem turnsUntil_eq {offset : Nat} (bounded : offset < size)
    (reached : (cursor + offset) % size = worker) : turnsUntil size cursor worker = offset := by
  have start : cursor % size ≤ size := (Nat.mod_lt cursor (Nat.zero_lt_of_lt bounded)).le
  have around : cursor + offset + (size - cursor % size) =
      offset + size + size * (cursor / size) := by
    have split := Nat.mod_add_div cursor size
    generalize cursor % size = place at *
    omega
  rw [turnsUntil, ← reached, Nat.mod_add_mod, around, Nat.add_mul_mod_self_left,
    Nat.add_mod_right, Nat.mod_eq_of_lt bounded]

/-- A worker's turn comes within one cycle. -/
theorem turnsUntil_lt (cursor : Nat) (inside : worker < size) :
    turnsUntil size cursor worker < size :=
  Nat.mod_lt _ (Nat.zero_lt_of_lt inside)

/-- After so many turns it is the turn of the worker. -/
theorem turnsUntil_reaches (cursor : Nat) (inside : worker < size) :
    (cursor + turnsUntil size cursor worker) % size = worker := by
  obtain ⟨offset, bounded, reached⟩ := exists_offset cursor inside
  rw [turnsUntil_eq bounded reached, reached]

/-- Once a worker had its turn, those after it are nearer by the turns that this took. -/
theorem turnsUntil_succ {chosen : Nat} (first : chosen < size) (inside : worker < size)
    (later : turnsUntil size cursor chosen < turnsUntil size cursor worker) :
    turnsUntil size ((chosen + 1) % size) worker + (turnsUntil size cursor chosen + 1) =
      turnsUntil size cursor worker := by
  have bounded := turnsUntil_lt cursor inside
  have fewer : turnsUntil size ((chosen + 1) % size) worker =
      turnsUntil size cursor worker - (turnsUntil size cursor chosen + 1) := by
    apply turnsUntil_eq (by omega)
    calc ((chosen + 1) % size +
          (turnsUntil size cursor worker - (turnsUntil size cursor chosen + 1))) % size
        = (chosen + (turnsUntil size cursor worker - turnsUntil size cursor chosen)) % size := by
          rw [Nat.mod_add_mod]
          congr 1
          omega
      _ = ((cursor + turnsUntil size cursor chosen) % size +
          (turnsUntil size cursor worker - turnsUntil size cursor chosen)) % size := by
          rw [turnsUntil_reaches cursor first]
      _ = (cursor + turnsUntil size cursor worker) % size := by
          rw [Nat.mod_add_mod]
          congr 1
          omega
      _ = worker := turnsUntil_reaches cursor inside
  omega

end Turns

/-- A score that is a number weighs load and mean latency, rounded as floats are. -/
theorem toFloat_score {loadWeight latencyWeight : Nat} {slot : WorkerSlot}
    (number : (score loadWeight latencyWeight slot).isNaN = false) :
    (score loadWeight latencyWeight slot).toFloat =
      slot.load.toFloat * .ofNat loadWeight + slot.latency.toFloat * .ofNat latencyWeight := by
  obtain ⟨load, latency, sum⟩ := Binary64.toFloat_combine number
  have loads := (Binary64.toFloat_combine load).2.2
  have latencies := (Binary64.toFloat_combine latency).2.2
  rw [Unpacking.toFloat_ofFloat] at loads latencies
  exact sum.trans (congrArg₂ (· + ·) loads latencies)

/-- What decides the place of a slot in the order of a policy: the less comes first. -/
def standing (policy : Policy) (size : Nat) (slot : WorkerSlot) : Int :=
  match policy with
  | .roundRobin cursor => turnsUntil size cursor slot.id
  | .loadBalanced => slot.load.rank
  | .priorityBased => slot.load.rank
  | .performanceAware loadWeight latencyWeight => (score loadWeight latencyWeight slot).rank

/-- The standing of a slot, and its number where the standing leaves a tie. -/
def key (policy : Policy) (size : Nat) (slot : WorkerSlot) : Int ×ₗ Nat :=
  toLex (policy.standing size slot, slot.id)

/-- The eligible slots in the order of a policy. -/
def ranking (policy : Policy) (pool : WorkerPool) : List WorkerSlot :=
  pool.eligibleSlots.insertionSort fun first second =>
    policy.key pool.size first ≤ policy.key pool.size second

variable {policy : Policy} {pool : WorkerPool} {worker : WorkerId}

/-- The ranking holds the eligible slots. -/
theorem perm_ranking (policy : Policy) (pool : WorkerPool) :
    (policy.ranking pool).Perm pool.eligibleSlots :=
  List.perm_insertionSort _ _

/-- No two slots share a place. -/
theorem pairwise_ranking (sound : pool.Sound) (policy : Policy) :
    (policy.ranking pool).Pairwise fun first second =>
      policy.key pool.size first < policy.key pool.size second := by
  have distinct : (policy.ranking pool).Pairwise fun first second => first.id ≠ second.id := by
    refine ((perm_ranking policy pool).pairwise_iff Ne.symm).2 ?_
    exact (sound.pairwise_slots.sublist List.filter_sublist).imp Nat.ne_of_lt
  have sorted := List.pairwise_insertionSort
    (fun first second => policy.key pool.size first ≤ policy.key pool.size second)
    pool.eligibleSlots
  refine (sorted.and distinct).imp fun {first second} ⟨atMost, different⟩ => ?_
  refine lt_of_le_of_ne atMost fun same => different ?_
  exact congrArg (fun place => (ofLex place).2) same

section Chosen

/-- Round robin ranks by turns alone: no two workers are as many turns away. -/
theorem key_roundRobin_lt_iff {size : Nat} {cursor : WorkerId} {first second : WorkerSlot}
    (one : first.id < size) (another : second.id < size) :
    (Policy.roundRobin cursor).key size first < (Policy.roundRobin cursor).key size second ↔
      turnsUntil size cursor first.id < turnsUntil size cursor second.id := by
  rw [key, key, Prod.Lex.toLex_lt_toLex]
  simp only [standing, Int.ofNat_lt, Int.ofNat_inj, or_iff_left_iff_imp, and_imp]
  intro same less
  have sameWorker : first.id = second.id := by
    rw [← turnsUntil_reaches cursor one, same, turnsUntil_reaches cursor another]
  exact absurd sameWorker less.ne

/-- Slots rank by their measure in the total order, and then by their numbers. -/
theorem ranksBefore_eq (measure : WorkerSlot → Binary64) (first second : WorkerSlot) :
    ranksBefore measure first second =
      decide ((toLex ((measure first).rank, first.id) : Int ×ₗ Nat) <
        toLex ((measure second).rank, second.id)) := by
  unfold ranksBefore
  simp only [Prod.Lex.toLex_lt_toLex]
  grind

/-- The eligible worker of least measure comes first by that measure. -/
theorem key_le_of_leastEligible? {measure : WorkerSlot → Binary64}
    (chosen : leastEligible? pool measure = some worker) :
    ∃ slot ∈ pool.eligibleSlots, slot.id = worker ∧ ∀ other ∈ pool.eligibleSlots,
      (toLex ((measure slot).rank, slot.id) : Int ×ₗ Nat) ≤
        toLex ((measure other).rank, other.id) := by
  obtain ⟨slot, least, rfl⟩ := Option.map_eq_some_iff.1 chosen
  exact ⟨slot, mem_of_leastBy? least, rfl, key_leastBy?_le (ranksBefore_eq measure) least⟩

/-- The first eligible worker going round is the one with the fewest turns until it is
next. -/
theorem key_le_of_nextInTurn? {cursor : WorkerId} (numbered : pool.Numbered)
    (chosen : nextInTurn? pool cursor = some worker) :
    ∃ slot ∈ pool.eligibleSlots, slot.id = worker ∧ ∀ other ∈ pool.eligibleSlots,
      (Policy.roundRobin cursor).key pool.size slot ≤
        (Policy.roundRobin cursor).key pool.size other := by
  obtain ⟨slot, found, eligible⟩ := eligible_of_nextInTurn? chosen
  have number : slot.id = worker := numbered found
  rw [nextInTurn?, List.find?_map] at chosen
  obtain ⟨offset, first, reached⟩ := Option.map_eq_some_iff.1 chosen
  obtain ⟨_, bounded, passed⟩ := List.find?_range_eq_some.1 first
  have turns : turnsUntil pool.size cursor slot.id = offset :=
    turnsUntil_eq (List.mem_range.1 bounded) (reached.trans number.symm)
  have listed := WorkerPool.mem_of_slot? found
  refine ⟨slot, List.mem_filter.2 ⟨listed, eligible⟩, number, ?_⟩
  intro other member
  obtain ⟨present, ready⟩ := List.mem_filter.1 member
  have inside := numbered.id_lt_size present
  rw [← not_lt, key_roundRobin_lt_iff inside (numbered.id_lt_size listed), turns]
  intro earlier
  have refused := passed _ earlier
  simp [turnsUntil_reaches cursor inside, numbered.found present, ready] at refused

/-- The chosen worker has the least key. -/
theorem key_le_of_worker? (numbered : pool.Numbered)
    (chosen : policy.worker? pool = some worker) :
    ∃ slot ∈ pool.eligibleSlots, slot.id = worker ∧
      ∀ other ∈ pool.eligibleSlots, policy.key pool.size slot ≤ policy.key pool.size other := by
  cases policy with
  | roundRobin cursor => exact key_le_of_nextInTurn? numbered chosen
  | loadBalanced => exact key_le_of_leastEligible? chosen
  | priorityBased => exact key_le_of_leastEligible? chosen
  | performanceAware loadWeight latencyWeight => exact key_le_of_leastEligible? chosen

/-- A policy chooses the first worker of its ranking. -/
theorem ranking_of_worker? (sound : pool.Sound) (chosen : policy.worker? pool = some worker) :
    ∃ slot rest, policy.ranking pool = slot :: rest ∧ slot.id = worker := by
  obtain ⟨slot, member, number, least⟩ := key_le_of_worker? sound.numbered chosen
  have listed : slot ∈ policy.ranking pool := (perm_ranking policy pool).mem_iff.2 member
  have ordered := pairwise_ranking sound policy
  cases ranked : policy.ranking pool with
  | nil =>
      rw [ranked] at listed
      cases listed
  | cons first rest =>
      rw [ranked] at listed ordered
      rcases List.mem_cons.1 listed with rfl | later
      · exact ⟨slot, rest, rfl, number⟩
      · have eligible : first ∈ pool.eligibleSlots :=
          (perm_ranking policy pool).mem_iff.1 (ranked ▸ List.mem_cons_self)
        exact absurd (List.rel_of_pairwise_cons ordered later) (least first eligible).not_gt

end Chosen

section Rest

variable {chosen first second : WorkerSlot}

/-- Choosing the first worker leaves those after it in their order. -/
theorem key_afterChoosing_lt (sound : pool.Sound)
    (listed : chosen ∈ pool.slots) (one : first ∈ pool.slots) (another : second ∈ pool.slots)
    (before : policy.key pool.size chosen < policy.key pool.size first)
    (precedes : policy.key pool.size first < policy.key pool.size second) :
    (policy.afterChoosing pool chosen.id).key pool.size first <
      (policy.afterChoosing pool chosen.id).key pool.size second := by
  cases policy with
  | roundRobin cursor =>
      have inside := sound.id_lt_size listed
      have insideOne := sound.id_lt_size one
      have insideAnother := sound.id_lt_size another
      rw [key_roundRobin_lt_iff inside insideOne] at before
      rw [key_roundRobin_lt_iff insideOne insideAnother] at precedes
      rw [afterChoosing, key_roundRobin_lt_iff insideOne insideAnother]
      have nearerOne := turnsUntil_succ inside insideOne before
      have nearerAnother := turnsUntil_succ inside insideAnother (before.trans precedes)
      omega
  | loadBalanced => exact precedes
  | priorityBased => exact precedes
  | performanceAware loadWeight latencyWeight => exact precedes

/-- Once the worker chosen is busy, what is left of the ranking is the ranking of what
is left. -/
theorem ranking_eq_cons {change : WorkerSlot → WorkerSlot} (sound : pool.Sound)
    (soundAfter : (pool.update worker change).Sound)
    (busy : ∀ slot, (change slot).isEligible = false)
    (chosen : policy.worker? pool = some worker) :
    ∃ slot, slot.id = worker ∧ policy.ranking pool =
      slot :: (policy.afterChoosing pool worker).ranking (pool.update worker change) := by
  obtain ⟨slot, rest, ranked, rfl⟩ := ranking_of_worker? sound chosen
  have listed : ∀ other ∈ policy.ranking pool, other ∈ pool.slots ∧ other.isEligible = true :=
    fun other member => List.mem_filter.1 ((perm_ranking policy pool).mem_iff.1 member)
  have all := perm_ranking policy pool
  have ordered := pairwise_ranking sound policy
  rw [ranked] at listed all ordered
  obtain ⟨present, eligible⟩ := listed slot List.mem_cons_self
  obtain ⟨before, later⟩ := List.pairwise_cons.1 ordered
  have left : rest.Perm (pool.update slot.id change).eligibleSlots :=
    (List.perm_cons slot).1
      (all.trans (WorkerPool.perm_eligibleSlots_update (sound.found present) eligible (busy slot)))
  have kept : rest.Pairwise fun first second =>
      (policy.afterChoosing pool slot.id).key (pool.update slot.id change).size first <
        (policy.afterChoosing pool slot.id).key (pool.update slot.id change).size second := by
    rw [WorkerPool.size_update]
    refine later.imp_of_mem fun {first second} one another precedes => ?_
    exact key_afterChoosing_lt sound present (listed first (List.mem_cons_of_mem _ one)).1
      (listed second (List.mem_cons_of_mem _ another)).1 (before first one) precedes
  refine ⟨slot, rfl, ?_⟩
  rw [ranked, List.cons_inj_right]
  exact List.Perm.eq_of_pairwise (fun _ _ _ _ less greater => absurd less greater.not_gt) kept
    (pairwise_ranking soundAfter _) (left.trans (perm_ranking _ _).symm)

end Rest

end Policy

end PoolArbiter
