/-!
# Priority tiers

The five priority classes in service order, their ranks and names, and families
of values indexed by them. A family is a structure of five fields, so reading
and replacing one entry are settled by cases on the tier.
-/

namespace PoolArbiter

universe u v

/-- Priority class of a work item; the constructors stand in service order. -/
inductive Tier where
  | critical
  | high
  | medium
  | low
  | background
  deriving DecidableEq, Repr

namespace Tier

/-- The tiers in service order. -/
def all : List Tier :=
  [.critical, .high, .medium, .low, .background]

/-- Place of a tier in the service order, counted from zero. -/
def rank : Tier → Nat
  | .critical => 0
  | .high => 1
  | .medium => 2
  | .low => 3
  | .background => 4

/-- The tier at a place of the service order. -/
def ofRank? (place : Nat) : Option Tier :=
  all[place]?

/-- The name under which a tier is read and written. -/
def name : Tier → String
  | .critical => "critical"
  | .high => "high"
  | .medium => "medium"
  | .low => "low"
  | .background => "background"

/-- The tier of exactly this name. -/
def ofName? (text : String) : Option Tier :=
  all.find? fun tier => tier.name == text

/-- The tier named by a text in which ASCII capitals stand for small letters. -/
def ofText? (text : String) : Option Tier :=
  ofName? text.toLower

/-- The list of the tiers leaves none out. -/
theorem mem_all (tier : Tier) : tier ∈ all := by
  cases tier <;> decide

/-- Every tier is found by its rank. -/
theorem ofRank?_rank (tier : Tier) : ofRank? tier.rank = some tier := by
  cases tier <;> rfl

/-- Every tier is found by its name. -/
theorem ofName?_name (tier : Tier) : ofName? tier.name = some tier := by
  cases tier <;> decide

end Tier

/-- One value for each tier. -/
structure PerTier (α : Type u) where
  critical : α
  high : α
  medium : α
  low : α
  background : α
  deriving DecidableEq, Repr

namespace PerTier

variable {α : Type u} {β : Type v}

/-- The entry of one tier. -/
def get (family : PerTier α) : Tier → α
  | .critical => family.critical
  | .high => family.high
  | .medium => family.medium
  | .low => family.low
  | .background => family.background

/-- Replace the entry of one tier. -/
def set (family : PerTier α) (tier : Tier) (value : α) : PerTier α :=
  match tier with
  | .critical => { family with critical := value }
  | .high => { family with high := value }
  | .medium => { family with medium := value }
  | .low => { family with low := value }
  | .background => { family with background := value }

/-- The family with the value of a function at each tier. -/
def tabulate (value : Tier → α) : PerTier α where
  critical := value .critical
  high := value .high
  medium := value .medium
  low := value .low
  background := value .background

/-- Change the entry of one tier by a function. -/
def modify (family : PerTier α) (tier : Tier) (change : α → α) : PerTier α :=
  family.set tier (change (family.get tier))

/-- Apply a function to every entry. -/
def map (family : PerTier α) (change : α → β) : PerTier β :=
  tabulate fun tier => change (family.get tier)

/-- The entries in service order. -/
def toList (family : PerTier α) : List α :=
  Tier.all.map family.get

/-- The sum of the entries. -/
def total (family : PerTier Nat) : Nat :=
  family.critical + family.high + family.medium + family.low + family.background

/-- A tabulated family has the value of the function for each tier. -/
@[simp]
theorem get_tabulate (value : Tier → α) (tier : Tier) :
    (tabulate value).get tier = value tier := by
  cases tier <;> rfl

/-- A change of all members changes each of them by itself. -/
@[simp]
theorem get_map (family : PerTier α) (change : α → β) (tier : Tier) :
    (family.map change).get tier = change (family.get tier) := by
  simp [map]

/-- Writing one member leaves the others as they are. -/
@[simp]
theorem get_set (family : PerTier α) (written read : Tier) (value : α) :
    (family.set written value).get read =
      if read = written then value else family.get read := by
  cases written <;> cases read <;> rfl

/-- Changing one member leaves the others as they are. -/
@[simp]
theorem get_modify (family : PerTier α) (written read : Tier) (change : α → α) :
    (family.modify written change).get read =
      if read = written then change (family.get written) else family.get read := by
  simp [modify]

/-- Families that agree on every tier are equal. -/
@[ext]
theorem ext {first second : PerTier α}
    (same : ∀ tier, first.get tier = second.get tier) : first = second := by
  cases first
  cases second
  have critical := same .critical
  have high := same .high
  have medium := same .medium
  have low := same .low
  have background := same .background
  simp_all [get]

end PerTier

end PoolArbiter
