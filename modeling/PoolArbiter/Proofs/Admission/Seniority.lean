import PoolArbiter.Proofs.Custody.ExactlyOnce

/-!
# Seniority in a tier

Within a tier the items that wait stand in one line: at its head those that came back from
workers, and behind them those that were never handed out. `InLine` says so, and that the
items that were handed out, in the order in which this happened first, followed by those
that never were, stand in the order of submission. Each move of an item keeps this: an item
joins at the tail, comes back to the head, leaves from the middle or is served at the head.
-/

namespace PoolArbiter

/-- The items of a tier in the order in which they were handed out first. -/
def Assignment.firsts (assignments : List Assignment) (tier : Tier) : List WorkId :=
  ((assignments.filter (·.tier = tier)).map (·.work)).eraseDups

namespace Assignment

variable {assignments more : List Assignment} {tier : Tier} {work : WorkId}

/-- The items that were first assigned in a tier are those that some assignment of the tier names.
-/
theorem mem_firsts : work ∈ firsts assignments tier ↔
    ∃ assignment ∈ assignments, assignment.tier = tier ∧ assignment.work = work := by
  simp [firsts, and_assoc]

/-- What was assigned stays assigned. -/
theorem mem_firsts_append (member : work ∈ firsts assignments tier) :
    work ∈ firsts (assignments ++ more) tier := by
  obtain ⟨assignment, listed, named⟩ := mem_firsts.1 member
  exact mem_firsts.2 ⟨assignment, List.mem_append_left _ listed, named⟩

/-- An assignment adds its item to those of its tier, unless it was handed out before. -/
theorem firsts_concat (assignments : List Assignment) (assignment : Assignment) (tier : Tier) :
    firsts (assignments ++ [assignment]) tier =
      firsts assignments tier ++
        if assignment.tier = tier ∧ assignment.work ∉ firsts assignments tier
        then [assignment.work] else [] := by
  by_cases own : assignment.tier = tier
  · have listed : assignment.work ∈ firsts assignments tier ↔
        assignment.work ∈ (assignments.filter (·.tier = tier)).map (·.work) :=
      List.mem_eraseDups
    rw [firsts, List.filter_append, List.map_append, List.eraseDups_append, ← firsts]
    by_cases known : assignment.work ∈ firsts assignments tier
    · simp [own, known, List.removeAll, listed.1 known]
    · have new := mt listed.2 known
      simp [own, known, List.removeAll, new, List.eraseDups_cons]
  · simp [firsts, own]

end Assignment

/-- A line of items: at its head those that came back, which were handed out before, and then
those that were never handed out. The items that were handed out and then these stand in
the order of submission. -/
def InLine (submitted requeued firsts : List WorkId) (line : List WorkItem) : Prop :=
  ∃ returned waiting, line = returned ++ waiting ∧
    (∀ item ∈ returned, item.id ∈ firsts ∧ item.id ∈ requeued) ∧
    (firsts ++ waiting.map (·.id)).Sublist submitted

namespace InLine

variable {submitted requeued more firsts : List WorkId} {line front rest : List WorkItem}
  {item : WorkItem}

/-- Nothing stands in line to begin with. -/
theorem nil : InLine [] [] [] [] :=
  ⟨[], [], rfl, by simp, .slnil⟩

/-- New items join at the tail. -/
theorem join (inLine : InLine submitted requeued firsts line) (joining : List WorkItem) :
    InLine (submitted ++ joining.map (·.id)) requeued firsts (line ++ joining) := by
  obtain ⟨returned, waiting, rfl, back, ordered⟩ := inLine
  refine ⟨returned, waiting ++ joining, List.append_assoc .., back, ?_⟩
  rw [List.map_append, ← List.append_assoc]
  exact ordered.append (.refl _)

/-- Items that were handed out come back to the head. -/
theorem comeBack (inLine : InLine submitted requeued firsts line)
    (back : ∀ item ∈ front, item.id ∈ firsts ∧ item.id ∈ more) :
    InLine submitted (requeued ++ more) firsts (front ++ line) := by
  obtain ⟨returned, waiting, rfl, earlier, ordered⟩ := inLine
  refine ⟨front ++ returned, waiting, (List.append_assoc ..).symm, fun item member => ?_, ordered⟩
  rcases List.mem_append.1 member with new | old
  · exact ⟨(back item new).1, List.mem_append_right _ (back item new).2⟩
  · exact ⟨(earlier item old).1, List.mem_append_left _ (earlier item old).2⟩

/-- Items may leave from any place. -/
theorem sublist (inLine : InLine submitted requeued firsts line) (fewer : rest.Sublist line) :
    InLine submitted requeued firsts rest := by
  obtain ⟨returned, waiting, rfl, back, ordered⟩ := inLine
  obtain ⟨kept, stayed, rfl, fewerReturned, fewerWaiting⟩ := List.sublist_append_iff.1 fewer
  refine ⟨kept, stayed, rfl, fun item member => back item (fewerReturned.subset member), ?_⟩
  exact ((List.Sublist.refl firsts).append (fewerWaiting.map _)).trans ordered

/-- The item at the head is served. If it was never handed out, it is the first of those that
were not. -/
theorem serve (inLine : InLine submitted requeued firsts (item :: rest))
    (distinct : submitted.Nodup) :
    InLine submitted requeued (firsts ++ if item.id ∉ firsts then [item.id] else []) rest := by
  obtain ⟨returned, waiting, line, back, ordered⟩ := inLine
  cases returned with
  | cons head others =>
      obtain ⟨rfl, rfl⟩ := List.cons.inj line
      have known := (back item List.mem_cons_self).1
      rw [if_neg (not_not_intro known), List.append_nil]
      exact ⟨others, waiting, rfl, fun other member => back other (List.mem_cons_of_mem _ member),
        ordered⟩
  | nil =>
      rw [List.nil_append] at line
      subst line
      -- The item goes from the head of the waiting to the end of those handed out.
      have new : item.id ∉ firsts := by
        have apart := ordered.nodup distinct
        rw [List.nodup_append] at apart
        exact fun known => apart.2.2 _ known _ List.mem_cons_self rfl
      refine ⟨[], rest, rfl, by simp, ?_⟩
      rw [if_pos new, List.append_assoc]
      exact ordered

end InLine

end PoolArbiter
