import PoolArbiter.Proofs.Starvation.Rivals

/-!
# Freedom from starvation

A full window is contested by a tier if every round serves some tier while that tier
waits throughout. The guard counts the tiers that are starved at present, so tiers that
become starved later displace one that waited all the time. That cannot happen if the
slack of every round covers its late rivals or is at least three, and for every smaller
slack there is a run in which it does.
-/

namespace PoolArbiter

namespace Controller

/-- A full window in which every round serves some tier while one tier waits. -/
structure Contested (tier : Tier) (length : Nat) (window : List Controller) : Prop where
  full : window.length = length
  busy : ∀ start ∈ window, start.assignedTiers ≠ []
  waits : ∀ start ∈ window, start.Waits tier

instance (tier : Tier) (length : Nat) (window : List Controller) :
    Decidable (Contested tier length window) :=
  decidable_of_iff (window.length = length ∧ (∀ start ∈ window, start.assignedTiers ≠ []) ∧
      ∀ start ∈ window, start.Waits tier)
    ⟨fun ⟨full, busy, waits⟩ => ⟨full, busy, waits⟩,
      fun ⟨full, busy, waits⟩ => ⟨full, busy, waits⟩⟩

/-- Allowing more late rivals is no stricter. -/
theorem Punctual.mono {tier : Tier} {slack late more : Nat} (grows : late ≤ more)
    {rounds : List Controller} (punctual : Punctual slack late tier rounds) :
    Punctual slack more tier rounds := by
  induction rounds with
  | nil => trivial
  | cons start later inductionHypothesis =>
      obtain ⟨⟨slackAtLeast, lateAtMost⟩, punctual⟩ := punctual
      exact ⟨⟨slackAtLeast, lateAtMost.trans grows⟩, inductionHypothesis punctual⟩

variable {config : Configuration} {controller : Controller} {operations : List Operation}
  {tier : Tier} {index slack late : Nat}

/-- A tier that contests a window is served in it if the slack covers the late rivals. -/
theorem served_of_contested (created : Controller.create config = .ok controller)
    (long : 5 ≤ config.adaptation.windowRounds)
    (contested : Contested tier config.adaptation.windowRounds
      (controller.windowStarts operations config.adaptation.windowRounds index))
    (punctual : Punctual slack late tier
      (controller.windowStarts operations config.adaptation.windowRounds index))
    (enough : late ≤ slack ∨ 3 ≤ slack) :
    ∃ start ∈ controller.windowStarts operations config.adaptation.windowRounds index,
      tier ∈ start.assignedTiers := by
  have lifetime : Lifetime config [] controller := .start created
  have aligned : controller.round % config.adaptation.windowRounds = 0 := by
    rw [Lifetime.start_eq created]
    exact Nat.zero_mod _
  have length : max 1 config.adaptation.windowRounds = config.adaptation.windowRounds :=
    Nat.max_eq_right (Nat.le_trans (by omega) long)
  have pending : Pending tier
      (controller.windowStarts operations config.adaptation.windowRounds index) := by
    have reached : ∀ start ∈ controller.windowStarts operations config.adaptation.windowRounds
        index, ∃ history, Lifetime config history start := fun start member =>
      lifetime.of_mem_roundStarts start (List.mem_of_mem_drop (List.mem_of_mem_take member))
    refine ⟨?_, ?_, contested.busy, contested.waits, lifetime.chain_windowStarts aligned length,
      ?_, ?_⟩
    · intro start member
      obtain ⟨_, reached⟩ := reached start member
      exact reached.ledgered.sound
    · intro start member
      obtain ⟨_, reached⟩ := reached start member
      exact reached.slack_le
    · intro start head
      rw [contested.full]
      exact (lifetime.head_windowStarts aligned length head).1
    · intro start head
      exact (lifetime.head_windowStarts aligned length head).2 tier
  refine pending.served punctual enough ?_
  rw [contested.full]
  exact Nat.lt_of_lt_of_le (card_rivals_lt_five _) long

end Controller

/-- One worker at a time is at work. In the emergency mode the slack falls to zero
after three rounds; otherwise it is a quarter of the window. -/
def crowdedConfiguration (slack : Nat) : Configuration where
  pool := { workers := 10 }
  adaptation := { windowRounds := if slack = 2 then 8 else 5 }
  thermal := { powerBudgetW := 0.8 }
  quality := { emergencyMode := slack = 0 }

/-- An item of the last tier waits while every round serves one of an earlier tier: at
first critical ones, and from the round on in which the guard would wait no longer an
item that was submitted just before the round. -/
def crowdedRun (slack : Nat) : List Operation :=
  let arrivals : List Tier := [.high, .medium, .low].take (slack + 1)
  let critical := (crowdedConfiguration slack).adaptation.windowRounds - arrivals.length
  let later := List.replicate (critical - 1) none ++ arrivals.map some
  .submit ⟨[1]⟩ .background :: List.replicate critical (.submit ⟨[1]⟩ .critical) ++
    .round :: later.zipIdx.flatMap fun (arrival, place) =>
      (arrival.map (Operation.submit ⟨[1]⟩)).toList ++
        [.receive (.completion ⟨place, place + 2, .exhausted, .ofFloat 0⟩), .round]

/-- The first window of a crowded run. -/
def crowdedWindow (slack : Nat) : List Controller :=
  (Controller.start (crowdedConfiguration slack)).windowStarts (crowdedRun slack)
    (crowdedConfiguration slack).adaptation.windowRounds 0

/-- With a slack of less than three, one late rival more than the slack starves a tier. -/
theorem crowdedWindow_starves {slack : Nat} (small : slack < 3) :
    Controller.create (crowdedConfiguration slack) =
        .ok (Controller.start (crowdedConfiguration slack)) ∧
      5 ≤ (crowdedConfiguration slack).adaptation.windowRounds ∧
      Controller.Contested .background (crowdedConfiguration slack).adaptation.windowRounds
        (crowdedWindow slack) ∧
      Controller.Punctual slack (slack + 1) .background (crowdedWindow slack) ∧
      ∀ start ∈ crowdedWindow slack, .background ∉ start.assignedTiers := by
  match slack, small with
  | 0, _ => exact ⟨rfl, by decide +kernel⟩
  | 1, _ => exact ⟨rfl, by decide +kernel⟩
  | 2, _ => exact ⟨rfl, by decide +kernel⟩

namespace Controller

/-- Take the contested windows whose rounds all start with at least some slack and all
have at most some late rivals. The tier that waits is served in every one of them
exactly if the slack covers the late rivals or is at least three. -/
theorem serves_contested_iff (slack late : Nat) :
    (∀ config controller, Controller.create config = .ok controller →
      5 ≤ config.adaptation.windowRounds → ∀ operations index tier,
      Contested tier config.adaptation.windowRounds
        (controller.windowStarts operations config.adaptation.windowRounds index) →
      Punctual slack late tier
        (controller.windowStarts operations config.adaptation.windowRounds index) →
      ∃ start ∈ controller.windowStarts operations config.adaptation.windowRounds index,
        tier ∈ start.assignedTiers) ↔
      late ≤ slack ∨ 3 ≤ slack := by
  constructor
  · intro serves
    by_contra few
    rw [not_or, Nat.not_le, Nat.not_le] at few
    obtain ⟨created, long, contested, punctual, starves⟩ := crowdedWindow_starves few.2
    obtain ⟨start, member, served⟩ := serves _ _ created long (crowdedRun slack) 0 .background
      contested (punctual.mono few.1)
    exact starves start member served
  · intro enough config controller created long operations index tier contested punctual
    exact served_of_contested created long contested punctual enough

/-- Two tiers that arrive in the last two of five rounds starve the one that waited. -/
theorem not_serves_contested :
    ¬ ∀ config controller, Controller.create config = .ok controller →
      5 ≤ config.adaptation.windowRounds → ∀ operations index tier,
      Contested tier config.adaptation.windowRounds
        (controller.windowStarts operations config.adaptation.windowRounds index) →
      ∃ start ∈ controller.windowStarts operations config.adaptation.windowRounds index,
        tier ∈ start.assignedTiers := by
  intro serves
  obtain ⟨created, long, contested, _, starves⟩ := crowdedWindow_starves (show 1 < 3 by omega)
  obtain ⟨start, member, served⟩ := serves _ _ created long (crowdedRun 1) 0 .background contested
  exact starves start member served

end Controller

end PoolArbiter
