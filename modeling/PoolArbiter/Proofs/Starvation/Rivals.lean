import Mathlib.Data.Finset.Card
import Mathlib.Data.Fintype.Basic
import PoolArbiter.Proofs.Starvation.Window

/-!
# Rivals of a waiting tier

A tier that waits for service has as rivals the starved tiers that come before it.
The guard counts the rivals of the present; those that become starved later in the
window are late. A waiting tier is served if no round sees more late rivals than its
slack, or if the slack is at least three.
-/

namespace PoolArbiter

instance : Fintype Tier where
  elems := Tier.all.toFinset
  complete tier := List.mem_toFinset.2 tier.mem_all

/-- No two tiers have one rank. -/
theorem Tier.rank_injective : Function.Injective Tier.rank := by
  intro first second same
  have place := congrArg Tier.ofRank? same
  rw [ofRank?_rank, ofRank?_rank] at place
  exact Option.some.inj place

namespace Controller

/-- Whether a tier has items when the next round starts to select. -/
def Waits (tier : Tier) (controller : Controller) : Prop :=
  0 < controller.selecting.controller.queues.depths.get tier

instance (tier : Tier) : DecidablePred (Waits tier) :=
  fun _ => inferInstanceAs (Decidable (0 < _))

/-- The tiers that are starved when the next round starts to select. -/
def starvedTiers (controller : Controller) : List Tier :=
  controller.queues.guard.starved controller.selecting.controller.queues.depths

variable {controller : Controller} {tier : Tier}

/-- Starved are the tiers that wait and were not served in this window. -/
theorem mem_starvedTiers : tier ∈ controller.starvedTiers ↔
    controller.Waits tier ∧ controller.queues.guard.serviced.get tier = false := by
  simp [starvedTiers, StarvationGuard.starved, Tier.mem_all, Waits]

/-- The starved tiers stand in service order. -/
theorem rank_head_starvedTiers {first : Tier}
    (head : controller.starvedTiers.head? = some first) (starved : tier ∈ controller.starvedTiers) :
    first.rank ≤ tier.rank := by
  have sorted : Tier.all.Pairwise (fun first second => first.rank < second.rank) := by decide
  have ordered : controller.starvedTiers.Pairwise
      (fun first second => first.rank < second.rank) := List.Pairwise.filter _ sorted
  obtain ⟨rest, parts⟩ := List.head?_eq_some_iff.1 head
  rw [parts] at starved ordered
  rcases List.mem_cons.1 starved with rfl | later
  · exact Nat.le_refl _
  · exact Nat.le_of_lt (List.rel_of_pairwise_cons ordered later)

/-- A round without time to wait serves the first starved tier. -/
theorem Sound.assigns_overdue (sound : controller.Sound) (busy : controller.assignedTiers ≠ [])
    (slack : controller.queues.guard.slack ≤ Binary64.greatestWord / 4)
    (overdue : controller.roundsLeft ≤
      controller.starvedTiers.length + controller.queues.guard.slack)
    {first : Tier} (head : controller.starvedTiers.head? = some first) :
    first ∈ controller.assignedTiers := by
  have serves := sound.serves
  have few : controller.starvedTiers.length ≤ 5 := StarvationGuard.length_starved_le _ _
  have patience : controller.queues.guard.patience controller.selecting.controller.queues.depths =
      controller.starvedTiers.length + controller.queues.guard.slack := by
    refine StarvationGuard.patience_eq ?_
    change controller.starvedTiers.length + controller.queues.guard.slack ≤ Binary64.greatestWord
    unfold Binary64.greatestWord at slack ⊢
    omega
  refine serves.overdue ?_ busy
  rw [guard_selecting]
  exact (if_pos (patience ▸ overdue)).trans head

/-- A tier that was served is not starved again in the window. -/
theorem serviced_of_chain {later : List Controller}
    (chain : (controller :: later).IsChain Continues)
    (served : controller.queues.guard.serviced.get tier = true ∨
      tier ∈ controller.assignedTiers) :
    ∀ next ∈ later, next.queues.guard.serviced.get tier = true := by
  induction later generalizing controller with
  | nil => simp
  | cons next rest inductionHypothesis =>
      obtain ⟨continues, chain⟩ := List.isChain_cons_cons.1 chain
      have marked := (continues.serviced tier).2 served
      intro start member
      rcases List.mem_cons.1 member with rfl | member
      · exact marked
      · exact inductionHypothesis chain (.inl marked) start member

/-- The tiers before a tier that are starved in some of several rounds. -/
def rivals (tier : Tier) (rounds : List Controller) : Finset Tier :=
  Finset.univ.filter fun first =>
    first.rank < tier.rank ∧ ∃ start ∈ rounds, first ∈ start.starvedTiers

/-- The rivals in later rounds that a round does not see. -/
def lateRivals (tier : Tier) (start : Controller) (later : List Controller) : Finset Tier :=
  rivals tier later \ rivals tier [start]

/-- Rivals come before the tier and are starved in some round. -/
theorem mem_rivals {first : Tier} {rounds : List Controller} :
    first ∈ rivals tier rounds ↔
      first.rank < tier.rank ∧ ∃ start ∈ rounds, first ∈ start.starvedTiers := by
  simp [rivals]

/-- Rivals are seen by the first round or come late. -/
theorem card_rivals_le (tier : Tier) (controller : Controller) (later : List Controller) :
    (rivals tier later).card ≤ (rivals tier [controller]).card +
      (lateRivals tier controller later).card := by
  rw [Nat.add_comm, lateRivals]
  exact Nat.sub_le_iff_le_add.1 (Finset.le_card_sdiff _ _)

/-- A starved tier is not its own rival. -/
theorem card_rivals_lt_length (starved : tier ∈ controller.starvedTiers) :
    (rivals tier [controller]).card < controller.starvedTiers.length := by
  have outside : tier ∉ rivals tier [controller] := fun inside =>
    Nat.lt_irrefl _ (mem_rivals.1 inside).1
  have inside : insert tier (rivals tier [controller]) ⊆ controller.starvedTiers.toFinset := by
    intro first member
    rcases Finset.mem_insert.1 member with rfl | member
    · exact List.mem_toFinset.2 starved
    · obtain ⟨_, start, present, starves⟩ := mem_rivals.1 member
      rw [List.mem_singleton.1 present] at starves
      exact List.mem_toFinset.2 starves
  calc (rivals tier [controller]).card
    _ < (insert tier (rivals tier [controller])).card := by
        rw [Finset.card_insert_of_notMem outside]
        exact Nat.lt_succ_self _
    _ ≤ controller.starvedTiers.toFinset.card := Finset.card_le_card inside
    _ ≤ controller.starvedTiers.length := List.toFinset_card_le _

/-- The rounds that end a window, in which every round serves some tier and one tier
waits and was not served before. -/
structure Pending (tier : Tier) (rounds : List Controller) : Prop where
  sound : ∀ start ∈ rounds, start.Sound
  /-- The starved tiers can be added to the slack. -/
  slack : ∀ start ∈ rounds, start.queues.guard.slack ≤ Binary64.greatestWord / 4
  busy : ∀ start ∈ rounds, start.assignedTiers ≠ []
  waits : ∀ start ∈ rounds, start.Waits tier
  chain : rounds.IsChain Continues
  left : ∀ start ∈ rounds.head?, start.roundsLeft = rounds.length
  unserved : ∀ start ∈ rounds.head?, start.queues.guard.serviced.get tier = false

namespace Pending

variable {start : Controller} {later : List Controller}

/-- A tier that is not served is still pending in the next round. -/
theorem tail (pending : Pending tier (start :: later)) (unserved : tier ∉ start.assignedTiers) :
    Pending tier later := by
  have continues := (List.isChain_cons.1 pending.chain).1
  refine ⟨fun next member => pending.sound next (List.mem_cons_of_mem _ member),
    fun next member => pending.slack next (List.mem_cons_of_mem _ member),
    fun next member => pending.busy next (List.mem_cons_of_mem _ member),
    fun next member => pending.waits next (List.mem_cons_of_mem _ member),
    (List.isChain_cons.1 pending.chain).2, ?_, ?_⟩
  · intro next head
    have left := pending.left start rfl
    rw [← (continues next head).roundsLeft, List.length_cons] at left
    exact Nat.succ.inj left
  · intro next head
    rw [Bool.eq_false_iff, Ne, (continues next head).serviced tier, pending.unserved start rfl]
    simpa using unserved

/-- A pending tier is starved. -/
theorem starved (pending : Pending tier (start :: later)) : tier ∈ start.starvedTiers :=
  mem_starvedTiers.2 ⟨pending.waits start List.mem_cons_self, pending.unserved start rfl⟩

/-- A tier that a round serves is no rival in later rounds. -/
theorem not_mem_rivals (pending : Pending tier (start :: later)) {first : Tier}
    (served : first ∈ start.assignedTiers) : first ∉ rivals tier later := by
  intro member
  obtain ⟨_, next, present, starves⟩ := mem_rivals.1 member
  have serviced := serviced_of_chain pending.chain (.inr served) next present
  rw [(mem_starvedTiers.1 starves).2] at serviced
  exact Bool.false_ne_true serviced

/-- A round without time to wait removes a rival, or serves the waiting tier. -/
theorem card_rivals_of_overdue (pending : Pending tier (start :: later))
    (unserved : tier ∉ start.assignedTiers)
    (overdue : start.roundsLeft ≤ start.starvedTiers.length + start.queues.guard.slack) :
    (rivals tier later).card < (rivals tier (start :: later)).card := by
  have starved := pending.starved
  obtain ⟨first, head⟩ : ∃ first, start.starvedTiers.head? = some first := by
    cases same : start.starvedTiers with
    | nil => rw [same] at starved; exact absurd starved List.not_mem_nil
    | cons first rest => exact ⟨first, rfl⟩
  have served := (pending.sound start List.mem_cons_self).assigns_overdue
    (pending.busy start List.mem_cons_self) (pending.slack start List.mem_cons_self) overdue head
  have before : first.rank < tier.rank := by
    refine Nat.lt_of_le_of_ne (rank_head_starvedTiers head starved) fun same => unserved ?_
    rwa [← Tier.rank_injective same]
  apply Finset.card_lt_card
  refine Finset.ssubset_iff_of_subset ?_ |>.2 ⟨first, ?_, pending.not_mem_rivals served⟩
  · intro other member
    obtain ⟨ahead, next, present, starves⟩ := mem_rivals.1 member
    exact mem_rivals.2 ⟨ahead, next, List.mem_cons_of_mem _ present, starves⟩
  · exact mem_rivals.2 ⟨before, start, List.mem_cons_self, List.mem_of_mem_head? head⟩

/-- Beside the waiting tier and a tier that is served there are three others. -/
theorem card_rivals_le_three (pending : Pending tier (start :: later))
    (unserved : tier ∉ start.assignedTiers) : (rivals tier later).card ≤ 3 := by
  obtain ⟨served, member⟩ := List.exists_mem_of_ne_nil _ (pending.busy start List.mem_cons_self)
  have distinct : served ≠ tier := fun same => unserved (same ▸ member)
  have inside : rivals tier later ⊆ (Finset.univ.erase tier).erase served := by
    intro first present
    refine Finset.mem_erase.2 ⟨?_, Finset.mem_erase.2 ⟨?_, Finset.mem_univ _⟩⟩
    · rintro rfl
      exact pending.not_mem_rivals member present
    · rintro rfl
      exact Nat.lt_irrefl _ (mem_rivals.1 present).1
  refine (Finset.card_le_card inside).trans (Nat.le_of_eq ?_)
  rw [Finset.card_erase_of_mem (Finset.mem_erase.2 ⟨distinct, Finset.mem_univ _⟩),
    Finset.card_erase_of_mem (Finset.mem_univ _)]
  rfl

variable {slack late : Nat}

/-- A round with time to wait leaves as many rounds as it leaves rivals, if it has
slack for those that it does not see. -/
theorem card_rivals_of_time (pending : Pending tier (start :: later))
    (unserved : tier ∉ start.assignedTiers) (slackAtLeast : slack ≤ start.queues.guard.slack)
    (lateAtMost : (lateRivals tier start later).card ≤ late) (enough : late ≤ slack ∨ 3 ≤ slack)
    (time : start.starvedTiers.length + start.queues.guard.slack < start.roundsLeft) :
    (rivals tier later).card < later.length := by
  have seen := card_rivals_lt_length pending.starved
  have unseen := card_rivals_le tier start later
  have few := pending.card_rivals_le_three unserved
  have left := pending.left start rfl
  rw [List.length_cons] at left
  rcases enough with enough | enough
  · omega
  · omega

end Pending

/-- Every round has at least some slack and at most some late rivals. -/
def Punctual (slack late : Nat) (tier : Tier) : List Controller → Prop
  | [] => True
  | start :: later =>
      (slack ≤ start.queues.guard.slack ∧ (lateRivals tier start later).card ≤ late) ∧
        Punctual slack late tier later

instance decidablePunctual (slack late : Nat) (tier : Tier) :
    ∀ rounds, Decidable (Punctual slack late tier rounds)
  | [] => inferInstanceAs (Decidable True)
  | _ :: later =>
      have := decidablePunctual slack late tier later
      inferInstanceAs (Decidable ((_ ∧ _) ∧ Punctual slack late tier later))

/-- A waiting tier is served while there are fewer rivals than rounds. -/
theorem Pending.served {rounds : List Controller} {slack late : Nat}
    (pending : Pending tier rounds) (punctual : Punctual slack late tier rounds)
    (enough : late ≤ slack ∨ 3 ≤ slack) (room : (rivals tier rounds).card < rounds.length) :
    ∃ start ∈ rounds, tier ∈ start.assignedTiers := by
  induction rounds with
  | nil => exact absurd room (Nat.not_lt_zero _)
  | cons start later inductionHypothesis =>
      by_cases served : tier ∈ start.assignedTiers
      · exact ⟨start, List.mem_cons_self, served⟩
      obtain ⟨⟨slackAtLeast, lateAtMost⟩, punctual⟩ := punctual
      have roomLater : (rivals tier later).card < later.length := by
        by_cases overdue :
            start.roundsLeft ≤ start.starvedTiers.length + start.queues.guard.slack
        · exact Nat.lt_of_lt_of_le (pending.card_rivals_of_overdue served overdue)
            (Nat.le_of_lt_succ room)
        · exact pending.card_rivals_of_time served slackAtLeast lateAtMost enough
            (Nat.lt_of_not_le overdue)
      obtain ⟨next, present, serves⟩ :=
        inductionHypothesis (pending.tail served) punctual roomLater
      exact ⟨next, List.mem_cons_of_mem _ present, serves⟩

/-- There are fewer rivals than the least length of a window. -/
theorem card_rivals_lt_five (rounds : List Controller) : (rivals tier rounds).card < 5 := by
  have inside : rivals tier rounds ⊂ Finset.univ :=
    Finset.ssubset_univ_iff.2 fun all => by
      have member := Finset.mem_univ tier
      rw [← all] at member
      exact Nat.lt_irrefl _ (mem_rivals.1 member).1
  exact Finset.card_lt_card inside

end Controller

end PoolArbiter
