/-!
# The least element of a list

`leastBy? before items` is the first element that no other one precedes, for a
test that compares two elements.
-/

namespace PoolArbiter

universe u

/-- The better of a champion and a challenger; the champion stays on a tie. -/
def better {α : Type u} (before : α → α → Bool) (champion challenger : α) : α :=
  if before challenger champion then challenger else champion

/-- The first least element of a list. -/
def leastBy? {α : Type u} (before : α → α → Bool) : List α → Option α
  | [] => none
  | first :: rest => some (rest.foldl (better before) first)

/-- The best of a champion and its challengers is one of them. -/
theorem foldl_better_mem {α : Type u} (before : α → α → Bool) (items : List α)
    (champion : α) :
    items.foldl (better before) champion ∈ champion :: items := by
  induction items generalizing champion with
  | nil => exact List.mem_singleton.2 rfl
  | cons challenger rest ih =>
      have member := ih (better before champion challenger)
      rw [List.foldl_cons]
      rcases List.mem_cons.1 member with same | later
      · rw [same]
        unfold better
        split <;> simp
      · exact List.mem_cons_of_mem _ (List.mem_cons_of_mem _ later)

/-- The least element is one of the list. -/
theorem mem_of_leastBy? {α : Type u} {before : α → α → Bool} {items : List α}
    {least : α} (found : leastBy? before items = some least) : least ∈ items := by
  cases items with
  | nil => simp [leastBy?] at found
  | cons first rest =>
      have member := foldl_better_mem before rest first
      simp only [leastBy?, Option.some.injEq] at found
      exact found ▸ member

/-- Only the empty list has no least element. -/
theorem leastBy?_eq_none_iff {α : Type u} {before : α → α → Bool} {items : List α} :
    leastBy? before items = none ↔ items = [] := by
  cases items <;> simp [leastBy?]

end PoolArbiter
