/-!
# Finite maps in key order

A finite map is the list of its entries in strictly ascending key order, so two
maps with the same entries are equal and their order of entries never depends on
the order of insertion. `KeyMap.find?_insert`, `KeyMap.find?_erase` and
`KeyMap.find?_filter` describe the operations through look-up.
-/

namespace PoolArbiter

universe u v

/-- A finite map from keys of a linear order. -/
structure KeyMap (κ : Type u) (β : Type v) [LT κ] where
  /-- The entries in ascending key order. -/
  entries : List (κ × β)
  ascending : entries.Pairwise fun earlier later => earlier.1 < later.1

namespace KeyMap

variable {κ : Type u} {β : Type v}

section Operations

variable [LT κ]

/-- The map without entries. -/
def empty : KeyMap κ β :=
  ⟨[], .nil⟩

instance : EmptyCollection (KeyMap κ β) :=
  ⟨empty⟩

instance : Inhabited (KeyMap κ β) :=
  ⟨empty⟩

/-- Number of entries. -/
def size (map : KeyMap κ β) : Nat :=
  map.entries.length

/-- Whether there is no entry. -/
def isEmpty (map : KeyMap κ β) : Bool :=
  map.entries.isEmpty

/-- The keys in ascending order. -/
def keys (map : KeyMap κ β) : List κ :=
  map.entries.map (·.1)

/-- The entries that satisfy a test. -/
def filter (map : KeyMap κ β) (keep : κ → β → Bool) : KeyMap κ β where
  entries := map.entries.filter fun entry => keep entry.1 entry.2
  ascending := map.ascending.filter _

variable [DecidableEq κ]

/-- The value stored under a key. -/
def find? (map : KeyMap κ β) (key : κ) : Option β :=
  map.entries.lookup key

/-- Whether there is an entry under a key. -/
def contains (map : KeyMap κ β) (key : κ) : Bool :=
  (map.find? key).isSome

/-- Remove the entry under a key. -/
def erase (map : KeyMap κ β) (key : κ) : KeyMap κ β :=
  map.filter fun other _ => other != key

end Operations

section Insertion

variable [LT κ] [DecidableLT κ] [DecidableEq κ]

/-- Put an entry at its place among entries in ascending order; an entry with
the same key is replaced. -/
def place (key : κ) (value : β) : List (κ × β) → List (κ × β)
  | [] => [(key, value)]
  | entry :: rest =>
      if key < entry.1 then (key, value) :: entry :: rest
      else if key = entry.1 then (key, value) :: rest
      else entry :: place key value rest

/-- Placing an entry brings in no other entry. -/
theorem mem_place {key : κ} {value : β} {entry : κ × β} {entries : List (κ × β)}
    (member : entry ∈ place key value entries) :
    entry = (key, value) ∨ entry ∈ entries := by
  induction entries with
  | nil => simpa [place] using member
  | cons head rest ih =>
      unfold place at member
      split at member
      · simpa using member
      · split at member
        · rcases List.mem_cons.1 member with same | later
          · exact .inl same
          · exact .inr (List.mem_cons_of_mem _ later)
        · rcases List.mem_cons.1 member with same | later
          · exact .inr (same ▸ List.mem_cons_self)
          · rcases ih later with same | old
            · exact .inl same
            · exact .inr (List.mem_cons_of_mem _ old)

variable [LE κ] [Std.IsLinearOrder κ] [Std.LawfulOrderLT κ]

/-- Placing an entry keeps the keys in ascending order. -/
theorem place_ascending (key : κ) (value : β) (entries : List (κ × β))
    (ascending : entries.Pairwise fun earlier later => earlier.1 < later.1) :
    (place key value entries).Pairwise fun earlier later => earlier.1 < later.1 := by
  induction entries with
  | nil => exact List.pairwise_singleton _ _
  | cons head rest ih =>
      obtain ⟨headFirst, restAscending⟩ := List.pairwise_cons.1 ascending
      unfold place
      split
      next keyFirst =>
        refine List.pairwise_cons.2 ⟨?_, ascending⟩
        intro entry member
        rcases List.mem_cons.1 member with same | later
        · exact same ▸ keyFirst
        · exact Std.lt_trans keyFirst (headFirst entry later)
      next notFirst =>
        split
        next sameKey =>
          refine List.pairwise_cons.2 ⟨?_, restAscending⟩
          intro entry member
          exact sameKey ▸ headFirst entry member
        next otherKey =>
          refine List.pairwise_cons.2 ⟨?_, ih restAscending⟩
          intro entry member
          rcases mem_place member with same | old
          · subst same
            exact Std.lt_of_le_of_ne (Std.not_lt.1 notFirst) (Ne.symm otherKey)
          · exact headFirst entry old

/-- Store a value under a key, in place of an earlier one. -/
def insert (map : KeyMap κ β) (key : κ) (value : β) : KeyMap κ β where
  entries := place key value map.entries
  ascending := place_ascending key value map.entries map.ascending

/-- The map of a list of entries; a later entry replaces an earlier one. -/
def ofList (entries : List (κ × β)) : KeyMap κ β :=
  entries.foldl (fun map entry => map.insert entry.1 entry.2) empty

end Insertion

section Lookup

variable [DecidableEq κ]

/-- With distinct keys the value under a key is kept exactly if the entry is. -/
private theorem lookup_filter (entries : List (κ × β)) (keep : κ → β → Bool) (key : κ)
    (distinct : entries.Pairwise fun earlier later => earlier.1 ≠ later.1) :
    (entries.filter fun entry => keep entry.1 entry.2).lookup key =
      (entries.lookup key).filter (keep key) := by
  induction entries with
  | nil => rfl
  | cons head rest ih =>
      obtain ⟨name, value⟩ := head
      obtain ⟨headDistinct, restDistinct⟩ := List.pairwise_cons.1 distinct
      have later := ih restDistinct
      by_cases same : key = name
      · subst same
        have absent : rest.lookup key = none := by
          rw [List.lookup_eq_none_iff]
          intro entry member
          simpa using headDistinct entry member
        by_cases kept : keep key value
        · simp [kept, Option.filter]
        · simp [kept, later, absent, Option.filter]
      · have other : (key == name) = false := by simpa using same
        by_cases kept : keep name value
        · simp [kept, List.lookup_cons, other, later]
        · simp [kept, List.lookup_cons, other, later]

/-- After placing an entry, its key has its value and every other key the one from before. -/
private theorem lookup_place [LT κ] [DecidableLT κ] (key : κ) (value : β) (read : κ)
    (entries : List (κ × β)) :
    (place key value entries).lookup read =
      if read = key then some value else entries.lookup read := by
  induction entries with
  | nil =>
      by_cases same : read = key
      · simp [place, same]
      · have other : (read == key) = false := by simpa using same
        simp [place, List.lookup_cons, same, other]
  | cons head rest ih =>
      obtain ⟨name, stored⟩ := head
      unfold place
      by_cases keyFirst : key < name
      · by_cases same : read = key
        · simp [keyFirst, same]
        · have other : (read == key) = false := by simpa using same
          simp [keyFirst, same, List.lookup_cons, other]
      · by_cases sameKey : key = name
        · subst sameKey
          by_cases same : read = key
          · simp [keyFirst, same]
          · have other : (read == key) = false := by simpa using same
            simp [keyFirst, same, List.lookup_cons, other]
        · by_cases same : read = name
          · subst same
            have notKey : ¬read = key := fun equal => sameKey equal.symm
            simp [keyFirst, sameKey, notKey]
          · have other : (read == name) = false := by simpa using same
            simp [keyFirst, sameKey, List.lookup_cons, other, ih]

end Lookup

/-- No key occurs twice. -/
theorem distinct [LT κ] [LE κ] [Std.LawfulOrderLT κ] (map : KeyMap κ β) :
    map.entries.Pairwise fun earlier later => earlier.1 ≠ later.1 :=
  map.ascending.imp fun {earlier later} before same => by
    rw [same] at before
    exact Std.lt_irrefl before

section Laws

variable [LT κ] [DecidableEq κ]

/-- The empty map holds nothing. -/
theorem find?_empty (key : κ) : (empty : KeyMap κ β).find? key = none :=
  rfl

/-- The keys are those under which something is held. -/
theorem mem_keys {map : KeyMap κ β} {key : κ} : key ∈ map.keys ↔ map.contains key = true := by
  rw [contains, find?, Option.isSome_iff_ne_none, Ne, List.lookup_eq_none_iff]
  simp [keys]

variable [LE κ] [Std.LawfulOrderLT κ]

/-- A filtered map holds what the map held, if the filter keeps it. -/
theorem find?_filter (map : KeyMap κ β) (keep : κ → β → Bool) (key : κ) :
    (map.filter keep).find? key = (map.find? key).filter (keep key) :=
  lookup_filter map.entries keep key map.distinct

/-- Erasing a key leaves the other keys alone. -/
theorem find?_erase (map : KeyMap κ β) (erased key : κ) :
    (map.erase erased).find? key = if key = erased then none else map.find? key := by
  unfold erase
  rw [find?_filter]
  by_cases same : key = erased
  · cases map.find? key <;> simp [same]
  · cases map.find? key <;> simp [same]

/-- Inserting under a key leaves the other keys alone. -/
theorem find?_insert [DecidableLT κ] [Std.IsLinearOrder κ] (map : KeyMap κ β)
    (key read : κ) (value : β) :
    (map.insert key value).find? read =
      if read = key then some value else map.find? read :=
  lookup_place key value read map.entries

/-- After an insertion the map holds the new key and those from before. -/
theorem contains_insert [DecidableLT κ] [Std.IsLinearOrder κ] {map : KeyMap κ β}
    {key read : κ} {value : β} :
    (map.insert key value).contains read = true ↔ read = key ∨ map.contains read = true := by
  rw [contains, find?_insert]
  by_cases same : read = key <;> simp [same, contains]

end Laws

end KeyMap

end PoolArbiter
