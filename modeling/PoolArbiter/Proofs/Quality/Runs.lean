import Mathlib.Algebra.BigOperators.Group.Finset.Basic
import Mathlib.Data.Finset.Prod

/-!
# Maximal runs of a list

A run is a stretch of neighbouring places whose items all pass a test, and it is maximal if
the places before and behind it do not pass. `runs_concat` says how the maximal runs change
when an item is added at the end: an item that passes makes the last run longer, and an item
that does not changes none.
-/

namespace PoolArbiter

/-- Neighbouring places of a list: where they start and how many they are. -/
structure Stretch where
  start : Nat
  length : Nat
  deriving DecidableEq, Repr

section Runs

variable {α : Type} {test : α → Bool} {items : List α} {item : α} {run : Stretch} {count : Nat}

/-- Whether a place of a list exists and passes a test. -/
def PassesAt (test : α → Bool) (items : List α) (place : Nat) : Prop :=
  items[place]?.any test = true

instance (test : α → Bool) (items : List α) (place : Nat) :
    Decidable (PassesAt test items place) :=
  inferInstanceAs (Decidable (_ = true))

/-- A stretch is a maximal run: it holds a place, all its places pass, and its neighbours do
not. -/
structure IsRun (test : α → Bool) (items : List α) (run : Stretch) : Prop where
  positive : 0 < run.length
  within : ∀ offset < run.length, PassesAt test items (run.start + offset)
  before : run.start = 0 ∨ ¬ PassesAt test items (run.start - 1)
  behind : ¬ PassesAt test items (run.start + run.length)

instance (test : α → Bool) (items : List α) (run : Stretch) :
    Decidable (IsRun test items run) :=
  decidable_of_iff
    (0 < run.length ∧ (∀ offset < run.length, PassesAt test items (run.start + offset)) ∧
      (run.start = 0 ∨ ¬ PassesAt test items (run.start - 1)) ∧
      ¬ PassesAt test items (run.start + run.length))
    ⟨fun ⟨positive, within, before, behind⟩ => ⟨positive, within, before, behind⟩,
      fun isRun => ⟨isRun.positive, isRun.within, isRun.before, isRun.behind⟩⟩

/-- The maximal runs of a list. -/
def runs (test : α → Bool) (items : List α) : Finset Stretch :=
  ((Finset.range items.length ×ˢ Finset.range (items.length + 1)).image
    fun place => ⟨place.1, place.2⟩).filter (IsRun test items)

/-- The last places of a list that pass, as many as there are. -/
structure EndsWith (test : α → Bool) (items : List α) (count : Nat) : Prop where
  count_le : count ≤ items.length
  within : ∀ place, items.length ≤ place + count → place < items.length →
    PassesAt test items place
  before : count = items.length ∨ ¬ PassesAt test items (items.length - count - 1)

/-- An item that passes is one of the list. -/
theorem PassesAt.lt {place : Nat} (passes : PassesAt test items place) :
    place < items.length := by
  by_contra outside
  rw [PassesAt, List.getElem?_eq_none (Nat.le_of_not_lt outside)] at passes
  cases passes

/-- A longer list passes where the shorter one does, and at its end if the last item does. -/
theorem passesAt_concat {place : Nat} :
    PassesAt test (items ++ [item]) place ↔
      PassesAt test items place ∨ place = items.length ∧ test item = true := by
  rcases Nat.lt_trichotomy place items.length with old | new | outside
  · simp [PassesAt, List.getElem?_append_left old, Nat.ne_of_lt old]
  · simp [PassesAt, new]
  · have missing : items[place]? = none := List.getElem?_eq_none (Nat.le_of_lt outside)
    have stillMissing : (items ++ [item])[place]? = none :=
      List.getElem?_eq_none (by simpa using Nat.succ_le_of_lt outside)
    simp [PassesAt, missing, stillMissing, Nat.ne_of_gt outside]

/-- A run ends within the list. -/
theorem IsRun.end_le (isRun : IsRun test items run) : run.start + run.length ≤ items.length := by
  have positive := isRun.positive
  have last := (isRun.within (run.length - 1) (by omega)).lt
  omega

/-- The listed runs are the maximal ones. -/
theorem mem_runs : run ∈ runs test items ↔ IsRun test items run := by
  simp only [runs, Finset.mem_filter, Finset.mem_image, Finset.mem_product, Finset.mem_range,
    Prod.exists, and_iff_right_iff_imp]
  intro isRun
  have inside := isRun.end_le
  have positive := isRun.positive
  exact ⟨run.start, run.length, ⟨by omega, by omega⟩, rfl⟩

namespace EndsWith

/-- The empty list ends with no items that pass. -/
theorem nil : EndsWith test [] 0 :=
  ⟨Nat.le_refl 0, fun _ _ outside => absurd outside (Nat.not_lt_zero _), .inl rfl⟩

/-- A further item that passes counts. -/
theorem concat (ends : EndsWith test items count) (passes : test item = true) :
    EndsWith test (items ++ [item]) (count + 1) := by
  have bounded := ends.count_le
  refine ⟨by simpa using bounded, fun place late inside => ?_, ?_⟩
  · rw [List.length_append, List.length_singleton] at late inside
    rw [passesAt_concat]
    by_cases last : place = items.length
    · exact .inr ⟨last, passes⟩
    · exact .inl (ends.within place (by omega) (by omega))
  · rw [List.length_append, List.length_singleton, passesAt_concat]
    rcases ends.before with whole | fails
    · exact .inl (by omega)
    · by_cases whole : count = items.length
      · exact .inl (by omega)
      · refine .inr fun held => held.elim (fun old => fails ?_) fun new => ?_
        · rwa [Nat.add_sub_add_right] at old
        · omega

/-- An item that fails starts the count again. -/
theorem concat_of_fails (items : List α) (fails : test item = false) :
    EndsWith test (items ++ [item]) 0 := by
  refine ⟨Nat.zero_le _, fun place late inside => by omega, .inr fun passes => ?_⟩
  rw [List.length_append, List.length_singleton, passesAt_concat] at passes
  rcases passes with old | new
  · exact absurd old.lt (by omega)
  · rw [fails] at new
    cases new.2

/-- The last places that pass are a maximal run, unless there are none. -/
theorem isRun (ends : EndsWith test items count) (positive : 0 < count) :
    IsRun test items ⟨items.length - count, count⟩ where
  positive := positive
  within offset inside := by
    have bounded := ends.count_le
    dsimp only at inside ⊢
    exact ends.within _ (by omega) (by omega)
  before := ends.before.imp_left fun whole => by
    dsimp only
    omega
  behind passes := by
    have bounded := ends.count_le
    have inside := passes.lt
    dsimp only at inside
    omega

/-- No other maximal run reaches the end of the list. -/
theorem eq_of_isRun (ends : EndsWith test items count) (isRun : IsRun test items run)
    (reaches : run.start + run.length = items.length) : run = ⟨items.length - count, count⟩ := by
  have bounded := ends.count_le
  have positive := isRun.positive
  have start : run.start = items.length - count := by
    rcases Nat.lt_trichotomy run.start (items.length - count) with early | same | late
    · -- The place before the last ones would belong to the run.
      rcases ends.before with whole | fails
      · omega
      · have passes := isRun.within (items.length - count - 1 - run.start) (by omega)
        rw [Nat.add_sub_cancel' (by omega)] at passes
        exact absurd passes fails
    · exact same
    · -- The place before the run would pass.
      rcases isRun.before with first | fails
      · omega
      · exact absurd (ends.within (run.start - 1) (by omega) (by omega)) fails
  obtain ⟨runStart, length⟩ := run
  dsimp only at start reaches
  simp only [Stretch.mk.injEq]
  omega

end EndsWith

/-- Whether a stretch is a maximal run shows at its places and the neighbouring ones. -/
theorem IsRun.of_agree {other : List α} (isRun : IsRun test items run)
    (agree : ∀ place ≤ run.start + run.length,
      (PassesAt test items place ↔ PassesAt test other place)) : IsRun test other run where
  positive := isRun.positive
  within offset inside := (agree _ (by omega)).1 (isRun.within offset inside)
  before := isRun.before.imp_right fun fails passes => fails ((agree _ (by omega)).2 passes)
  behind passes := isRun.behind ((agree _ (Nat.le_refl _)).2 passes)

/-- A further item leaves the runs alone that end before it. -/
theorem isRun_concat_iff (short : run.start + run.length < items.length) :
    IsRun test (items ++ [item]) run ↔ IsRun test items run := by
  have agree : ∀ place ≤ run.start + run.length,
      (PassesAt test (items ++ [item]) place ↔ PassesAt test items place) := by
    intro place near
    rw [passesAt_concat, or_iff_left]
    rintro ⟨last, _⟩
    omega
  exact ⟨fun isRun => isRun.of_agree agree,
    fun isRun => isRun.of_agree fun place near => (agree place near).symm⟩

/-- An item that does not pass changes no run. -/
theorem runs_concat_of_fails (items : List α) (fails : test item = false) :
    runs test (items ++ [item]) = runs test items := by
  have agree : ∀ place, PassesAt test (items ++ [item]) place ↔ PassesAt test items place := by
    simp [passesAt_concat, fails]
  ext run
  rw [mem_runs, mem_runs]
  exact ⟨fun isRun => isRun.of_agree fun place _ => agree place,
    fun isRun => isRun.of_agree fun place _ => (agree place).symm⟩

/-- An item that passes makes the last run longer by one place. -/
theorem runs_concat (ends : EndsWith test items count) (passes : test item = true) :
    runs test (items ++ [item]) =
      insert ⟨items.length - count, count + 1⟩
        ((runs test items).erase ⟨items.length - count, count⟩) := by
  have bounded := ends.count_le
  have longer := ends.concat passes
  have length : (items ++ [item]).length - (count + 1) = items.length - count := by simp
  ext run
  rw [Finset.mem_insert, Finset.mem_erase, mem_runs, mem_runs]
  constructor
  · intro isRun
    have inside := isRun.end_le
    rw [List.length_append, List.length_singleton] at inside
    -- The run does not end in front of the new item, because that passes.
    have notThere : run.start + run.length ≠ items.length := fun there =>
      isRun.behind (passesAt_concat.2 (.inr ⟨there, passes⟩))
    by_cases reaches : run.start + run.length = items.length + 1
    · left
      rw [longer.eq_of_isRun isRun (by simpa using reaches), length]
    · right
      refine ⟨?_, (isRun_concat_iff (by omega)).1 isRun⟩
      rintro rfl
      dsimp only at notThere
      omega
  · rintro (rfl | ⟨other, isRun⟩)
    · rw [← length]
      exact longer.isRun (Nat.succ_pos count)
    · have inside := isRun.end_le
      have short : run.start + run.length ≠ items.length :=
        fun reaches => other (ends.eq_of_isRun isRun reaches)
      exact (isRun_concat_iff (by omega)).2 isRun

/-- Number of full windows in the maximal runs of a list. -/
def fullWindows (test : α → Bool) (window : Nat) (items : List α) : Nat :=
  ∑ run ∈ runs test items, run.length / window

/-- An item that passes counts in the last run only. -/
theorem fullWindows_concat (window : Nat) (ends : EndsWith test items count)
    (passes : test item = true) :
    fullWindows test window (items ++ [item]) + count / window =
      fullWindows test window items + (count + 1) / window := by
  have fresh : (⟨items.length - count, count + 1⟩ : Stretch) ∉
      (runs test items).erase ⟨items.length - count, count⟩ := by
    intro listed
    have inside := (mem_runs.1 (Finset.mem_of_mem_erase listed)).end_le
    have bounded := ends.count_le
    dsimp only at inside
    omega
  have others : ∑ run ∈ (runs test items).erase ⟨items.length - count, count⟩,
      run.length / window + count / window = fullWindows test window items := by
    by_cases none : count = 0
    · subst none
      rw [Nat.zero_div, Nat.add_zero, fullWindows]
      exact Finset.sum_erase _ (Nat.zero_div window)
    · exact Finset.sum_erase_add _ _ (mem_runs.2 (ends.isRun (Nat.pos_of_ne_zero none)))
  rw [fullWindows, runs_concat ends passes, Finset.sum_insert fresh, ← others]
  dsimp only
  omega

end Runs

end PoolArbiter
