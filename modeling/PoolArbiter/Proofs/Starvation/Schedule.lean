import Mathlib.Data.Fintype.Card
import PoolArbiter.Proofs.Selection.Choice
import PoolArbiter.Proofs.Starvation.Rivals

/-!
# Schedules of the queues

The queues on their own, without the controller: in a round anything may be done with
them, in any order, and then the guard goes to the next round. A `Move` is one action with
the queues that it meets. `Move.effect` says once what an action can do; which tiers it
leaves starved or unserved follows from that.
-/

namespace PoolArbiter

/-- Anything that can be done with the queues in a round. -/
inductive QueueAction where
  | enqueue (item : WorkItem)
  | requeue (item : WorkItem)
  | withdraw (work : WorkId)
  | setSlack (slack : Nat)
  | popNext
  | popOldest
  deriving DecidableEq, Repr

namespace AdmissionQueues

/-- What an action takes from the queues as the next item to serve. -/
def pop? (queues : AdmissionQueues) : QueueAction → Option (WorkItem × AdmissionQueues)
  | .popNext => queues.popNext?
  | .popOldest => queues.popOldest?
  | _ => none

/-- The queues after an action. One that is refused or finds nothing changes nothing. -/
def act (queues : AdmissionQueues) : QueueAction → AdmissionQueues
  | .enqueue item =>
      match queues.enqueue item with
      | .ok next => next
      | .error _ => queues
  | .requeue item => (queues.requeue? item).getD queues
  | .withdraw work => ((queues.withdraw? work).map (·.2)).getD queues
  | .setSlack slack => queues.withSlack slack
  | .popNext => (queues.popNext?.map (·.2)).getD queues
  | .popOldest => (queues.popOldest?.map (·.2)).getD queues

/-- The queues at the start of the next round, without a switch of the policy. -/
def close (queues : AdmissionQueues) (actions : List QueueAction) : AdmissionQueues :=
  (actions.foldl act queues).advance false

/-- The queues are at the start of a window of the guard. -/
structure Opens (queues : AdmissionQueues) : Prop where
  place : queues.guard.roundInWindow = 0
  unserved : ∀ tier, queues.guard.serviced.get tier = false

end AdmissionQueues

/-- An action, with the queues that it meets. -/
structure Move where
  queues : AdmissionQueues
  action : QueueAction
  deriving DecidableEq, Repr

namespace Move

/-- The queues that a move leaves. -/
def next (move : Move) : AdmissionQueues :=
  move.queues.act move.action

/-- A move pops an item. -/
def Pops (move : Move) : Prop :=
  (move.queues.pop? move.action).isSome = true

/-- A move pops the first item of a tier. -/
def Serves (move : Move) (tier : Tier) : Prop :=
  move.Pops ∧ move.queues.pop? move.action = move.queues.popFrom? tier

/-- A move puts an item into a tier. -/
def Joins (move : Move) (tier : Tier) : Prop :=
  match move.action with
  | .enqueue item => item.tier = tier ∧ (move.queues.enqueue item).isOk = true
  | .requeue item => item.tier = tier ∧ (move.queues.requeue? item).isSome = true
  | _ => False

/-- Items join only tiers in which others wait or that were served in this window. -/
def IsCalm (move : Move) : Prop :=
  ∀ tier, move.Joins tier →
    0 < move.queues.depth tier ∨ move.queues.guard.serviced.get tier = true

/-- A move withdraws the only item of a tier. -/
def Empties (move : Move) (tier : Tier) : Prop :=
  (∃ work, move.action = .withdraw work) ∧ 0 < move.queues.depth tier ∧ move.next.depth tier = 0

end Move

instance (move : Move) : Decidable move.Pops :=
  inferInstanceAs (Decidable (_ = true))

instance (move : Move) (tier : Tier) : Decidable (move.Joins tier) :=
  match move with
  | ⟨_, .enqueue _⟩ => inferInstanceAs (Decidable (_ ∧ _))
  | ⟨_, .requeue _⟩ => inferInstanceAs (Decidable (_ ∧ _))
  | ⟨_, .withdraw _⟩ | ⟨_, .setSlack _⟩ | ⟨_, .popNext⟩ | ⟨_, .popOldest⟩ =>
      inferInstanceAs (Decidable False)

instance (move : Move) : Decidable move.IsCalm :=
  inferInstanceAs (Decidable (∀ _, _))

namespace AdmissionQueues

/-- The moves of one round. -/
def moves (queues : AdmissionQueues) : List QueueAction → List Move
  | [] => []
  | action :: rest => ⟨queues, action⟩ :: (queues.act action).moves rest

/-- The moves of several rounds, each with its list of actions. -/
def rounds (queues : AdmissionQueues) : List (List QueueAction) → List (List Move)
  | [] => []
  | actions :: later => queues.moves actions :: (queues.close actions).rounds later

end AdmissionQueues

namespace Move

/-- What a move can do. -/
inductive Effect (move : Move) : Prop where
  | idle (noPop : ¬ move.Pops) (same : move.next = move.queues)
  | slackened (noPop : ¬ move.Pops) (slack : Nat) (same : move.next = move.queues.withSlack slack)
  | joined (noPop : ¬ move.Pops) (tier : Tier) (items : List WorkItem) (joins : move.Joins tier)
      (longer : move.queues.depth tier < items.length)
      (same : move.next = move.queues.withItems tier items)
  | withdrawn (noPop : ¬ move.Pops) (asked : ∃ work, move.action = .withdraw work) (tier : Tier)
      (items : List WorkItem) (shorter : items.length < move.queues.depth tier)
      (same : move.next = move.queues.withItems tier items)
  | popped (tier : Tier) (serves : move.Serves tier) (rest : List WorkItem)
      (overdue : ∀ first, move.queues.guard.overdue? move.queues.depths = some first →
        tier = first)
      (same : move.next =
        { move.queues.withItems tier rest with guard := move.queues.guard.markServiced tier })

/-- A pop takes the first item of some tier, of the overdue one if there is one. -/
theorem effect_of_pops {move : Move} (pops : move.Pops) {chosen? : Option Tier}
    (popped : move.queues.pop? move.action =
      ((move.queues.guard.overdue? move.queues.depths).or chosen?).bind move.queues.popFrom?)
    (next : move.next = ((move.queues.pop? move.action).map (·.2)).getD move.queues) :
    move.Effect := by
  obtain ⟨⟨item, left⟩, taken⟩ := Option.isSome_iff_exists.1 pops
  obtain ⟨tier, chosen, served⟩ := Option.bind_eq_some_iff.1 (popped.symm.trans taken)
  obtain ⟨rest, _, rfl⟩ := AdmissionQueues.popFrom?_eq_some_iff.1 served
  refine .popped tier ⟨pops, taken.trans served.symm⟩ rest ?_ ?_
  · intro first overdue
    rw [overdue, Option.some_or] at chosen
    exact (Option.some.inj chosen).symm
  · rw [next, taken]
    rfl

/-- A move without an item to pop changes nothing. -/
theorem effect_of_not_pops {move : Move} (noPop : ¬ move.Pops)
    (next : move.next = ((move.queues.pop? move.action).map (·.2)).getD move.queues) :
    move.Effect := by
  have nothing : move.queues.pop? move.action = none := by
    simpa [Pops] using noPop
  refine .idle noPop ?_
  rw [next, nothing]
  rfl

/-- Every move has one of these effects. -/
theorem effect (move : Move) : move.Effect := by
  obtain ⟨queues, action⟩ := move
  cases action with
  | enqueue item =>
      cases accepted : queues.enqueue item with
      | error refusal =>
          exact .idle (by simp [Pops, AdmissionQueues.pop?])
            (by simp [next, AdmissionQueues.act, accepted])
      | ok after =>
          refine .joined (by simp [Pops, AdmissionQueues.pop?]) item.tier
            (queues.items item.tier ++ [item]) ?_ ?_ ?_
          · exact ⟨rfl, by rw [accepted]; rfl⟩
          · simp [AdmissionQueues.depth]
          · rw [← AdmissionQueues.enqueue_eq_ok accepted]
            simp [next, AdmissionQueues.act, accepted]
  | requeue item =>
      cases accepted : queues.requeue? item with
      | none =>
          exact .idle (by simp [Pops, AdmissionQueues.pop?])
            (by simp [next, AdmissionQueues.act, accepted])
      | some after =>
          refine .joined (by simp [Pops, AdmissionQueues.pop?]) item.tier
            (item :: queues.items item.tier) ?_ ?_ ?_
          · exact ⟨rfl, by rw [accepted]; rfl⟩
          · simp [AdmissionQueues.depth]
          · rw [← AdmissionQueues.requeue?_eq_some accepted]
            simp [next, AdmissionQueues.act, accepted]
  | withdraw work =>
      cases withdrawn : queues.withdraw? work with
      | none =>
          exact .idle (by simp [Pops, AdmissionQueues.pop?])
            (by simp [next, AdmissionQueues.act, withdrawn])
      | some taken =>
          obtain ⟨item, after⟩ := taken
          obtain ⟨_, tier, before, rest, items, same⟩ :=
            AdmissionQueues.withdraw?_eq_some withdrawn
          refine .withdrawn (by simp [Pops, AdmissionQueues.pop?]) ⟨work, rfl⟩ tier
            (before ++ rest) ?_ ?_
          · simp [AdmissionQueues.depth, items]
          · rw [← same]
            simp [next, AdmissionQueues.act, withdrawn]
  | setSlack slack =>
      exact .slackened (by simp [Pops, AdmissionQueues.pop?]) slack rfl
  | popNext =>
      by_cases pops : Pops ⟨queues, .popNext⟩
      · exact effect_of_pops pops rfl rfl
      · exact effect_of_not_pops pops rfl
  | popOldest =>
      by_cases pops : Pops ⟨queues, .popOldest⟩
      · exact effect_of_pops pops rfl rfl
      · exact effect_of_not_pops pops rfl

variable {move : Move} {tier : Tier}

/-- A move changes neither the length of the window nor the place in it. -/
theorem place_next (move : Move) :
    move.next.guard.window = move.queues.guard.window ∧
      move.next.guard.roundInWindow = move.queues.guard.roundInWindow := by
  cases move.effect with
  | idle _ same | slackened _ _ same | joined _ _ _ _ _ same | withdrawn _ _ _ _ _ same
  | popped _ _ _ _ same =>
      rw [same]
      exact ⟨rfl, rfl⟩

/-- Serving a tier marks it. -/
theorem guard_of_serves (serves : move.Serves tier) :
    move.next.guard = move.queues.guard.markServiced tier := by
  obtain ⟨pops, popped⟩ := serves
  obtain ⟨⟨item, left⟩, taken⟩ := Option.isSome_iff_exists.1 pops
  obtain ⟨rest, _, rfl⟩ := AdmissionQueues.popFrom?_eq_some_iff.1 (popped.symm.trans taken)
  have next : move.next = ((move.queues.pop? move.action).map (·.2)).getD move.queues := by
    obtain ⟨queues, action⟩ := move
    cases action with
    | popNext | popOldest => rfl
    | _ => simp [AdmissionQueues.pop?] at taken
  rw [next, taken]
  rfl

/-- A move marks the tier that it serves, and no other one. -/
theorem serviced_next (move : Move) (tier : Tier) :
    move.next.guard.serviced.get tier = true ↔
      move.queues.guard.serviced.get tier = true ∨ move.Serves tier := by
  constructor
  · intro marked
    cases move.effect with
    | idle _ same | slackened _ _ same | joined _ _ _ _ _ same | withdrawn _ _ _ _ _ same =>
        rw [same] at marked
        exact .inl marked
    | popped served serves _ _ same =>
        rw [same] at marked
        simp only [StarvationGuard.markServiced, PerTier.get_set] at marked
        split at marked
        next own => exact .inr (own ▸ serves)
        next => exact .inl marked
  · rintro (marked | serves)
    · cases move.effect with
      | idle _ same | slackened _ _ same | joined _ _ _ _ _ same | withdrawn _ _ _ _ _ same =>
          rw [same]
          exact marked
      | popped served serves _ _ same =>
          rw [same]
          simp only [StarvationGuard.markServiced, PerTier.get_set]
          split
          · rfl
          · exact marked
    · rw [guard_of_serves serves]
      simp [StarvationGuard.markServiced]

end Move

namespace AdmissionQueues

/-- The rounds that are left in the window of the guard, the current one included. -/
def roundsLeft (queues : AdmissionQueues) : Nat :=
  queues.guard.window - queues.guard.roundInWindow

/-- The tiers that wait and were not served in this window. -/
def starvedTiers (queues : AdmissionQueues) : Finset Tier :=
  (queues.guard.starved queues.depths).toFinset

/-- The tiers that were not served in this window. -/
def unservedTiers (queues : AdmissionQueues) : Finset Tier :=
  Finset.univ.filter fun tier => queues.guard.serviced.get tier = false

variable {queues : AdmissionQueues} {tier : Tier}

/-- Starved are the tiers that wait and were not served in this window. -/
@[simp]
theorem mem_starvedTiers : tier ∈ queues.starvedTiers ↔
    0 < queues.depth tier ∧ queues.guard.serviced.get tier = false := by
  simp [starvedTiers, StarvationGuard.mem_starved]

/-- Unserved are the tiers without a mark. -/
@[simp]
theorem mem_unservedTiers :
    tier ∈ queues.unservedTiers ↔ queues.guard.serviced.get tier = false := by
  simp [unservedTiers]

/-- There are as many starved tiers as the guard counts. -/
theorem card_starvedTiers (queues : AdmissionQueues) :
    queues.starvedTiers.card = (queues.guard.starved queues.depths).length := by
  have distinct : Tier.all.Nodup := by decide
  exact List.toFinset_card_of_nodup (distinct.filter _)

/-- If the starved tiers and the slack add up to a word and fill the rest of the window, one of
the tiers is overdue. -/
theorem exists_overdue?
    (fits : queues.starvedTiers.card + queues.guard.slack ≤ Binary64.greatestWord)
    (pressed : queues.roundsLeft ≤ queues.starvedTiers.card + queues.guard.slack)
    (starved : tier ∈ queues.starvedTiers) :
    ∃ first ∈ queues.starvedTiers, queues.guard.overdue? queues.depths = some first := by
  rw [card_starvedTiers] at fits pressed
  rw [← StarvationGuard.patience_eq fits] at pressed
  have overdue : queues.guard.overdue? queues.depths =
      (queues.guard.starved queues.depths).head? := if_pos pressed
  rw [starvedTiers, List.mem_toFinset] at starved
  cases waiting : queues.guard.starved queues.depths with
  | nil =>
      rw [waiting] at starved
      cases starved
  | cons first rest =>
      refine ⟨first, ?_, by rw [overdue, waiting]; rfl⟩
      rw [starvedTiers, waiting]
      exact List.mem_toFinset.2 List.mem_cons_self

end AdmissionQueues

namespace Move

variable {move : Move} {tier : Tier}

/-- A starved tier stays starved until it is served or emptied. -/
theorem starved_next (starved : tier ∈ move.queues.starvedTiers) :
    tier ∈ move.next.starvedTiers ∨ move.Serves tier ∨ move.Empties tier := by
  by_cases serves : move.Serves tier
  · exact .inr (.inl serves)
  by_cases empties : move.Empties tier
  · exact .inr (.inr empties)
  left
  rw [AdmissionQueues.mem_starvedTiers] at starved ⊢
  obtain ⟨waits, unserved⟩ := starved
  refine ⟨?_, ?_⟩
  · cases move.effect with
    | idle _ same | slackened _ _ same =>
        rw [same]
        exact waits
    | joined _ joined items _ longer same =>
        rw [same, AdmissionQueues.depth, AdmissionQueues.items_withItems]
        split
        next => exact Nat.zero_lt_of_lt longer
        next => exact waits
    | withdrawn _ asked withdrawn items _ same =>
        refine Nat.pos_of_ne_zero fun none => empties ⟨asked, waits, none⟩
    | popped served serves' rest _ same =>
        have different : tier ≠ served := fun own => serves (own ▸ serves')
        rw [same]
        simpa [AdmissionQueues.depth, AdmissionQueues.items, AdmissionQueues.withItems,
          different] using waits
  · rw [Bool.eq_false_iff, ne_eq, serviced_next]
    simp [unserved, serves]

/-- Nothing but an arrival makes a tier starved. -/
theorem starvedTiers_next_subset (calm : move.IsCalm) :
    move.next.starvedTiers ⊆ move.queues.starvedTiers := by
  intro tier starved
  rw [AdmissionQueues.mem_starvedTiers] at starved ⊢
  obtain ⟨waits, unserved⟩ := starved
  rw [Bool.eq_false_iff, ne_eq, serviced_next, not_or, ← ne_eq, ← Bool.eq_false_iff] at unserved
  refine ⟨?_, unserved.1⟩
  cases move.effect with
  | idle _ same | slackened _ _ same =>
      rw [same] at waits
      exact waits
  | joined _ joined items joins longer same =>
      rw [same, AdmissionQueues.depth, AdmissionQueues.items_withItems] at waits
      split at waits
      next own =>
        subst own
        exact (calm _ joins).resolve_right (by simp [unserved.1])
      next => exact waits
  | withdrawn _ _ withdrawn items shorter same =>
      rw [same, AdmissionQueues.depth, AdmissionQueues.items_withItems] at waits
      split at waits
      next own =>
        subst own
        exact Nat.zero_lt_of_lt shorter
      next => exact waits
  | popped served serves rest _ same =>
      have different : tier ≠ served := fun own => unserved.2 (own ▸ serves)
      rw [same] at waits
      simpa [AdmissionQueues.depth, AdmissionQueues.items, AdmissionQueues.withItems,
        different] using waits

/-- Within a window a tier that was served stays so. -/
theorem unservedTiers_next_subset (move : Move) :
    move.next.unservedTiers ⊆ move.queues.unservedTiers := by
  intro tier unserved
  rw [AdmissionQueues.mem_unservedTiers, Bool.eq_false_iff, ne_eq] at unserved ⊢
  exact fun marked => unserved ((serviced_next move tier).2 (.inl marked))

/-- A pop without time to wait serves a starved tier, if a word holds the sum of the slack and
four tiers. With all five tiers starved the sum may start over from zero, but then every tier
that a pop can serve is starved. -/
theorem exists_serves_starved (pops : move.Pops) (starved : tier ∈ move.queues.starvedTiers)
    (slack : move.queues.guard.slack + 4 ≤ Binary64.greatestWord)
    (pressed : move.queues.roundsLeft ≤
      move.queues.starvedTiers.card + move.queues.guard.slack) :
    ∃ served ∈ move.queues.starvedTiers, move.Serves served := by
  have few : move.queues.starvedTiers.card ≤ 5 := Finset.card_le_univ _
  cases move.effect with
  | idle noPop | slackened noPop | joined noPop | withdrawn noPop => exact absurd pops noPop
  | popped served serves _ goesFirst _ =>
      rcases few.lt_or_eq with fewer | all
      · obtain ⟨first, member, overdue⟩ :=
          AdmissionQueues.exists_overdue? (by omega) pressed starved
        obtain rfl := goesFirst first overdue
        exact ⟨served, member, serves⟩
      · have every : move.queues.starvedTiers = Finset.univ :=
          (Finset.card_eq_iff_eq_univ _).1 all
        exact ⟨served, every ▸ Finset.mem_univ served, serves⟩

end Move

end PoolArbiter
