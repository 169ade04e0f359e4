/-!
# The most recent items

A bounded record that keeps the items pushed last, oldest first. Its capacity is
at least one, and it never holds more items than that.
-/

namespace PoolArbiter

universe u

/-- The latest items pushed, up to a capacity. -/
structure Recent (α : Type u) where
  capacity : Nat
  /-- The kept items, oldest first. -/
  items : List α
  capacity_pos : 0 < capacity
  length_le : items.length ≤ capacity

namespace Recent

variable {α : Type u}

/-- A record without items; a capacity of zero counts as one. -/
def ofCapacity (capacity : Nat) : Recent α where
  capacity := max 1 capacity
  items := []
  capacity_pos := by omega
  length_le := by simp

/-- Add an item; the oldest one leaves a full record. -/
def push (record : Recent α) (item : α) : Recent α where
  capacity := record.capacity
  items := record.items.drop (record.items.length + 1 - record.capacity) ++ [item]
  capacity_pos := record.capacity_pos
  length_le := by
    have positive := record.capacity_pos
    have bounded := record.length_le
    simp only [List.length_append, List.length_drop, List.length_singleton]
    omega

/-- Keep the items that satisfy a test. -/
def retain (record : Recent α) (keep : α → Bool) : Recent α where
  capacity := record.capacity
  items := record.items.filter keep
  capacity_pos := record.capacity_pos
  length_le := Nat.le_trans (List.length_filter_le _ _) record.length_le

/-- The item pushed last. -/
def latest? (record : Recent α) : Option α :=
  record.items.getLast?

/-- What was recorded last is the latest. -/
theorem latest?_push (record : Recent α) (item : α) :
    (record.push item).latest? = some item := by
  simp [push, latest?]

end Recent

end PoolArbiter
