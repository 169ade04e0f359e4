import PoolArbiter.Proofs.Printing.Lines

/-!
# The tables of a printed document

The lines of a section put one table into the table that its path leads to. `nest` is a table
inside others that are the last ones of theirs, as a document is while it is read from top to
bottom; `add_section` says what one section adds there.
-/

namespace PoolArbiter.Toml

section Nesting

/-- A table inside others. Each of them is the last entry of the one around it, after other
entries. -/
def nest (around : List (Entries × String)) (inner : Entries) : Entries :=
  around.foldr (fun (earlier, step) inner => earlier ++ [(step, .table .header inner)]) inner

/-- The path to a nested table. -/
def pathOf (around : List (Entries × String)) : List String :=
  around.map (·.2)

/-- No table on the way hides behind an earlier entry of its name. -/
def IsOpen (around : List (Entries × String)) : Prop :=
  ∀ outer ∈ around, outer.1.lookup outer.2 = none

/-- Definitions after an innermost table are entered in it. -/
theorem nest_append (around : List (Entries × String)) (inner more : Entries) (name : String) :
    nest (around ++ [(inner, name)]) more =
      nest around (inner ++ [(name, .table .header more)]) := by
  simp [nest]

/-- A new step finds what was just entered. -/
theorem lookup_last {earlier : Entries} {step : String} (fresh : earlier.lookup step = none)
    (value : Value) : (earlier ++ [(step, value)]).lookup step = some value := by
  rw [List.lookup_append, fresh]
  simp

/-- Replacing a new step changes the last entry. -/
theorem replace_last {earlier : Entries} {step : String} (fresh : earlier.lookup step = none)
    (value changed : Value) :
    Entries.replace (earlier ++ [(step, value)]) step changed = earlier ++ [(step, changed)] := by
  have kept : earlier.map (fun entry => if entry.1 == step then (step, changed) else entry) =
      earlier := by
    refine (List.map_congr_left fun entry member => ?_).trans (List.map_id' earlier)
    have other := List.lookup_eq_none_iff.1 fresh entry member
    exact if_neg fun same => by simp [eq_of_beq same] at other
  rw [Entries.replace, List.map_append, kept]
  simp

/-- To change a nested table is to change what lies inside the others. -/
theorem modifyAt_nest {around : List (Entries × String)} (isOpen : IsOpen around)
    (change : Entries → Option Entries) (inner : Entries) :
    Entries.modifyAt change (pathOf around) (nest around inner) =
      (change inner).map (nest around) := by
  induction around with
  | nil =>
      change change inner = (change inner).map id
      rw [Option.map_id]
      rfl
  | cons outer around inductionHypothesis =>
      obtain ⟨earlier, step⟩ := outer
      have fresh : earlier.lookup step = none := isOpen (earlier, step) List.mem_cons_self
      have later := inductionHypothesis fun other member =>
        isOpen other (List.mem_cons_of_mem _ member)
      change Entries.modifyAt change (step :: pathOf around)
        (earlier ++ [(step, .table .header (nest around inner))]) = _
      rw [Entries.modifyAt, lookup_last fresh]
      dsimp only
      rw [later, Option.map_map]
      congr 1
      funext changed
      exact replace_last fresh _ _

end Nesting

section Sections

/-- The entries of a section as a table. -/
def fieldEntries (fields : List (String × Scalar)) : Entries :=
  fields.map fun field => (field.1, field.2.value)

/-- Each field of a section has its own name. -/
def AreDistinct (fields : List (String × Scalar)) : Prop :=
  fields.Pairwise fun earlier later => earlier.1 ≠ later.1

theorem add_define {around : List (Entries × String)} (isOpen : IsOpen around) {inner : Entries}
    {name : String} (fresh : inner.lookup name = none) (value : Value) :
    Assembly.add ⟨nest around inner, pathOf around⟩ (.define ⟨[], name⟩ value) =
      some ⟨nest around (inner ++ [(name, value)]), pathOf around⟩ := by
  have defined : Entries.define name value [] inner = some (inner ++ [(name, value)]) := by
    rw [Entries.define, fresh]
    rfl
  simp only [Assembly.add, modifyAt_nest isOpen, defined, Option.map_some, Option.bind_eq_bind,
    Option.bind_some, Option.pure_def]

/-- The lines of fields add their entries. -/
theorem add_fields {around : List (Entries × String)} (isOpen : IsOpen around) {inner : Entries}
    {fields : List (String × Scalar)} (distinct : AreDistinct fields)
    (fresh : ∀ field ∈ fields, inner.lookup field.1 = none) :
    (fieldLines fields).foldlM Assembly.add ⟨nest around inner, pathOf around⟩ =
      some ⟨nest around (inner ++ fieldEntries fields), pathOf around⟩ := by
  induction fields generalizing inner with
  | nil => simp [fieldLines, fieldEntries]
  | cons field fields inductionHypothesis =>
      obtain ⟨apart, distinct⟩ := List.pairwise_cons.1 distinct
      have here := add_define isOpen (fresh field List.mem_cons_self) field.2.value
      have freshLater : ∀ other ∈ fields,
          (inner ++ [(field.1, field.2.value)]).lookup other.1 = none := by
        intro other member
        rw [List.lookup_append, fresh other (List.mem_cons_of_mem _ member)]
        simpa using (apart other member).symm
      have later := inductionHypothesis distinct freshLater
      change ((.define ⟨[], field.1⟩ field.2.value :: fieldLines fields).foldlM Assembly.add _) = _
      rw [List.foldlM_cons, here]
      change (fieldLines fields).foldlM Assembly.add _ = _
      rw [later, List.append_assoc]
      rfl

/-- The lines of a section add its table. -/
theorem add_section {around : List (Entries × String)} (isOpen : IsOpen around) {inner : Entries}
    {name : String} (fresh : inner.lookup name = none) {fields : List (String × Scalar)}
    (distinct : AreDistinct fields) (current : List String) :
    (Section.lines ⟨pathOf around ++ [name], fields⟩).foldlM Assembly.add
        ⟨nest around inner, current⟩ =
      some ⟨nest around (inner ++ [(name, .table .header (fieldEntries fields))]),
        pathOf around ++ [name]⟩ := by
  have lines_eq : Section.lines ⟨pathOf around ++ [name], fields⟩ =
      .header ⟨pathOf around, name⟩ :: fieldLines fields := by
    simp [Section.lines]
  have opened : Entries.openTable name inner = some (inner ++ [(name, .table .header [])]) := by
    rw [Entries.openTable, fresh]
  have header : Assembly.add ⟨nest around inner, current⟩ (.header ⟨pathOf around, name⟩) =
      some ⟨nest (around ++ [(inner, name)]) [], pathOf (around ++ [(inner, name)])⟩ := by
    simp only [Assembly.add, modifyAt_nest isOpen, opened, Option.map_some, Option.bind_eq_bind,
      Option.bind_some, Option.pure_def, nest_append]
    simp [pathOf]
  have isOpenInside : IsOpen (around ++ [(inner, name)]) := by
    intro outer member
    rcases List.mem_append.1 member with old | new
    · exact isOpen outer old
    · rw [List.mem_singleton.1 new]
      exact fresh
  have empty : ∀ field ∈ fields, ([] : Entries).lookup field.1 = none := fun _ _ => rfl
  have entries := add_fields isOpenInside distinct empty
  rw [lines_eq, List.foldlM_cons, header]
  change (fieldLines fields).foldlM Assembly.add _ = _
  rw [entries, nest_append]
  simp [pathOf]

end Sections

end PoolArbiter.Toml
