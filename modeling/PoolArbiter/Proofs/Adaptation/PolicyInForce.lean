import PoolArbiter.Proofs.Adaptation.Windows
import PoolArbiter.Proofs.Round.Loads
import PoolArbiter.Proofs.Starvation.Alignment
import PoolArbiter.Proofs.Words.Range

/-!
# The policy in force

Each round of a run shows adaptation the mean load and the switches, and nothing else of a run
moves adaptation. `Controller.FollowsWindows` says what this makes of the policy: its kind is
that of the last window of rounds that is full, its weights are the configured ones, and the
report of a round names a switch exactly if the round ends a window and leaves another kind in
force.
`Controller.Adapted` is the invariant behind it.
-/

namespace PoolArbiter

namespace Policy

variable {settings : AdaptationSettings} {policy : Policy}

/-- Choosing workers does not change the kind of a policy. -/
@[simp]
theorem kind_afterAll (policy : Policy) (pool : WorkerPool) (workers : List WorkerId) :
    (policy.afterAll pool workers).kind = policy.kind := by
  unfold afterAll
  split
  · rfl
  · cases policy <;> rfl

/-- A policy that has weights has the configured ones. -/
def IsWeighted (settings : AdaptationSettings) (policy : Policy) : Prop :=
  ∀ loadWeight latencyWeight, policy = .performanceAware loadWeight latencyWeight →
    loadWeight = settings.loadWeight ∧ latencyWeight = settings.latencyWeight

/-- A policy built for a kind has the weights of the settings. -/
theorem isWeighted_policyOf (settings : AdaptationSettings) (kind : PolicyKind) :
    ((Adaptation.fresh settings).policyOf kind).IsWeighted settings := by
  rintro loadWeight latencyWeight same
  cases kind <;> cases same
  exact ⟨rfl, rfl⟩

/-- Choosing workers does not change the weights of a policy. -/
theorem IsWeighted.afterAll (weighted : policy.IsWeighted settings) (pool : WorkerPool)
    (workers : List WorkerId) : (policy.afterAll pool workers).IsWeighted settings := by
  unfold Policy.afterAll
  split
  · exact weighted
  · cases policy with
    | roundRobin cursor =>
        rintro loadWeight latencyWeight same
        cases same
    | loadBalanced => exact weighted
    | priorityBased => exact weighted
    | performanceAware loadWeight latencyWeight => exact weighted

end Policy

/-- Adaptation replaces the policy if it has a new one, and logs the kinds. -/
theorem Turn.adapt_replaces (turn : Turn) :
    let next := (turn.controller.adaptation.onRound turn.controller.pool.meanActiveLoad
      turn.controller.policy turn.controller.modes).2
    turn.adapt.controller.policy = next.getD turn.controller.policy ∧
      turn.adapt.log.policySwitch =
        (next.map fun policy => ⟨turn.controller.policy.kind, policy.kind⟩).or
          turn.log.policySwitch := by
  intro next
  unfold adapt
  dsimp only
  split
  next kept =>
    have none : next = none := kept
    rw [none]
    exact ⟨rfl, rfl⟩
  next policy replaced =>
    have some : next = some policy := replaced
    rw [some]
    exact ⟨rfl, rfl⟩

namespace Controller

variable {controller : Controller}

/-- What the next round shows to adaptation. -/
def observed (controller : Controller) : Float × Modes :=
  (controller.sampledLoad, controller.modes)

/-- The policy that adaptation has for the next round, if it has a new one. -/
def nextPolicy? (controller : Controller) : Option Policy :=
  (controller.adaptation.onRound controller.sampledLoad controller.policy controller.modes).2

/-- Enforcing the cap leaves the modes alone. -/
theorem modes_capped (controller : Controller) :
    controller.capped.controller.modes = controller.modes :=
  congrArg (·.controller.modes) (frame_capped controller)

/-- Before the adaptation no switch is entered. -/
theorem policySwitch_capped (controller : Controller) :
    controller.capped.log.policySwitch = none :=
  congrArg (·.policySwitch) (frame_capped controller)

/-- Selection begins with the policy that the adaptation left in force. -/
theorem policy_selecting (controller : Controller) :
    controller.selecting.controller.policy = controller.nextPolicy?.getD controller.policy := by
  rw [selecting_eq, controller.capped.adapt_replaces.1, adaptation_capped, policy_capped,
    modes_capped]
  rfl

/-- A switch is entered if the adaptation chose a policy, with the kinds before and after it. -/
theorem policySwitch_selecting (controller : Controller) :
    controller.selecting.log.policySwitch =
      controller.nextPolicy?.map fun policy => ⟨controller.policy.kind, policy.kind⟩ := by
  rw [selecting_eq, controller.capped.adapt_replaces.2, adaptation_capped, policy_capped,
    modes_capped, policySwitch_capped, Option.or_none]
  rfl

/-- A round ends with a policy of the kind that the adaptation left in force. -/
theorem Sound.kind_runRound (sound : controller.Sound) :
    controller.runRound.1.policy.kind =
      (controller.nextPolicy?.getD controller.policy).kind := by
  rw [sound.policy_runRound, Policy.kind_afterAll, policy_selecting]

/-- Between the rounds the policy stays as it is. -/
theorem policy_perform (controller : Controller) {operation : Operation}
    (between : operation ≠ .round) :
    (controller.perform operation).1.policy = controller.policy :=
  congrArg (·.policy) (controller.gauges_perform operation between)

end Controller

/-- What the rounds of a history showed to adaptation, first round first. -/
def History.observed (history : History) (config : Configuration) : List (Float × Modes) :=
  ((Controller.start config).roundStarts (history.map (·.operation))).map Controller.observed

namespace Controller

variable {controller : Controller} {settings : AdaptationSettings}
  {rounds : List (Float × Modes)}

/-- Adaptation and the policy are where some rounds led. -/
structure Adapted (settings : AdaptationSettings) (rounds : List (Float × Modes))
    (controller : Controller) : Prop where
  round : controller.round = rounds.length
  summarises : controller.adaptation.Summarises settings (rounds.map (·.1))
  decides : Adaptation.Decides settings rounds controller.policy.kind
  weighted : controller.policy.IsWeighted settings

namespace Adapted

/-- Inside a window no policy is chosen. -/
theorem nextPolicy?_of_open (adapted : controller.Adapted settings rounds)
    (isOpen : ¬ Adaptation.windowLength settings ∣ rounds.length + 1) :
    controller.nextPolicy? = none := by
  rw [← List.length_map (·.1)] at isOpen
  exact (adapted.summarises.onRound_of_open isOpen).2

/-- At the end of a window the policy is chosen that the samples decide on, unless one of its kind
is in force. -/
theorem nextPolicy?_of_closed (adapted : controller.Adapted settings rounds)
    (isClosed : Adaptation.windowLength settings ∣ rounds.length + 1) :
    ∃ kind, Adaptation.Decides settings (rounds ++ [controller.observed]) kind ∧
      controller.nextPolicy? =
        if kind = controller.policy.kind then none
        else some ((Adaptation.fresh settings).policyOf kind) := by
  refine ⟨_, Adaptation.decides_concat_of_closed isClosed, ?_⟩
  rw [← List.length_map (·.1)] at isClosed
  exact (adapted.summarises.onRound_of_closed isClosed).2

/-- After the next round the kind is the one that the rounds decide. -/
theorem decides_next (adapted : controller.Adapted settings rounds) :
    Adaptation.Decides settings (rounds ++ [controller.observed])
      (controller.nextPolicy?.getD controller.policy).kind := by
  by_cases isClosed : Adaptation.windowLength settings ∣ rounds.length + 1
  · obtain ⟨kind, decides, next⟩ := adapted.nextPolicy?_of_closed isClosed
    rw [next]
    split
    next same =>
      rw [Option.getD_none, ← same]
      exact decides
    next =>
      rw [Option.getD_some, Adaptation.policyOf, Policy.kind_ofKind]
      exact decides
  · rw [adapted.nextPolicy?_of_open isClosed]
    exact adapted.decides.concat_of_open isClosed _

/-- The policy in force after a round has the weights of the settings. -/
theorem weighted_next (adapted : controller.Adapted settings rounds) :
    (controller.nextPolicy?.getD controller.policy).IsWeighted settings := by
  by_cases isClosed : Adaptation.windowLength settings ∣ rounds.length + 1
  · obtain ⟨kind, _, next⟩ := adapted.nextPolicy?_of_closed isClosed
    rw [next]
    split
    next => exact adapted.weighted
    next => exact Policy.isWeighted_policyOf settings kind
  · rw [adapted.nextPolicy?_of_open isClosed]
    exact adapted.weighted

/-- A round leads on. -/
theorem runRound (adapted : controller.Adapted settings rounds) (sound : controller.Sound) :
    controller.runRound.1.Adapted settings (rounds ++ [controller.observed]) where
  round := by
    rw [sound.round_runRound, adapted.round, List.length_append, List.length_singleton]
  summarises := by
    rw [sound.adaptation_runRound_eq controller.policy controller.modes, List.map_append]
    by_cases isClosed : Adaptation.windowLength settings ∣ (rounds.map (·.1)).length + 1
    · exact (adapted.summarises.onRound_of_closed isClosed).1
    · exact (adapted.summarises.onRound_of_open isClosed).1
  decides := by
    rw [sound.kind_runRound]
    exact adapted.decides_next
  weighted := by
    rw [sound.policy_runRound, policy_selecting]
    exact adapted.weighted_next.afterAll _ _

/-- The report of the next round names a switch exactly if the round ends a window and the kind
of policy is another one after it. -/
theorem policySwitch_runRound (adapted : controller.Adapted settings rounds)
    (sound : controller.Sound) :
    controller.runRound.2.log.policySwitch =
      if Adaptation.windowLength settings ∣ controller.runRound.2.round ∧
          controller.policy.kind ≠ controller.runRound.1.policy.kind then
        some ⟨controller.policy.kind, controller.runRound.1.policy.kind⟩
      else none := by
  rw [sound.policySwitch_runRound, policySwitch_selecting, sound.kind_runRound,
    sound.number_runRound, adapted.round]
  by_cases isClosed : Adaptation.windowLength settings ∣ rounds.length + 1
  · obtain ⟨kind, _, next⟩ := adapted.nextPolicy?_of_closed isClosed
    rw [next]
    by_cases same : kind = controller.policy.kind
    · simp [same]
    · simp [same, isClosed, Ne.symm same, Adaptation.policyOf]
  · rw [adapted.nextPolicy?_of_open isClosed]
    simp

/-- Between two rounds nothing is adapted. -/
theorem perform (adapted : controller.Adapted settings rounds) {operation : Operation}
    (between : operation ≠ .round) :
    (controller.perform operation).1.Adapted settings rounds := by
  have adaptation : (controller.perform operation).1.adaptation = controller.adaptation :=
    congrArg (·.adaptation) (controller.frame_perform operation between)
  have policy := controller.policy_perform between
  constructor
  · rw [controller.round_perform operation between]
    exact adapted.round
  · rw [adaptation]
    exact adapted.summarises
  · rw [policy]
    exact adapted.decides
  · rw [policy]
    exact adapted.weighted

end Adapted

/-- A fresh controller has adapted to no rounds. -/
theorem adapted_start (config : Configuration) : (start config).Adapted config.adaptation [] where
  round := rfl
  summarises := Adaptation.summarises_fresh config.adaptation
  decides := Adaptation.decides_nil config.adaptation
  weighted := Policy.isWeighted_policyOf config.adaptation .performanceAware

/-- The policy in force follows the windows of rounds of a history. -/
structure FollowsWindows (config : Configuration) (history : History) (controller : Controller) :
    Prop where
  /-- Every round shows its mean load and the switches. -/
  rounds : (history.observed config).length = controller.round
  /-- Until a window is full, the first kind is in force. -/
  early : controller.round < config.adaptation.windowRounds →
    controller.policy.kind = .performanceAware
  /-- Then it is the kind that is chosen for the mean of the samples of the last full window,
  under the switches of the last round of this window. -/
  chosen : config.adaptation.windowRounds ≤ controller.round →
    ∃ last, (history.observed config)[controller.round / config.adaptation.windowRounds *
        config.adaptation.windowRounds - 1]? = some last ∧
      (windowOf config.adaptation.windowRounds ((history.observed config).map (·.1))
        (controller.round / config.adaptation.windowRounds - 1)).length =
          config.adaptation.windowRounds ∧
      controller.policy.kind = (Adaptation.fresh config.adaptation).choose
        (Adaptation.meanOf (windowOf config.adaptation.windowRounds
          ((history.observed config).map (·.1))
          (controller.round / config.adaptation.windowRounds - 1))) last.2
  /-- The next report names a switch exactly if its round ends a window and the kinds before
  and after it differ. -/
  switches : controller.runRound.2.log.policySwitch =
    if config.adaptation.windowRounds ∣ controller.runRound.2.round ∧
        controller.policy.kind ≠ controller.runRound.1.policy.kind then
      some ⟨controller.policy.kind, controller.runRound.1.policy.kind⟩
    else none
  /-- A policy that has weights has the configured ones, also while items are assigned. -/
  weighted : controller.policy.IsWeighted config.adaptation ∧
    controller.selecting.controller.policy.IsWeighted config.adaptation
  /-- The record holds the means of the last full windows, oldest first. -/
  record : controller.adaptation.history.items =
    (Adaptation.means config.adaptation.windowRounds ((history.observed config).map (·.1))).drop
      (controller.round / config.adaptation.windowRounds -
        max 1 config.adaptation.historyCapacity)

end Controller

namespace Lifetime

variable {config : Configuration} {history : History} {controller : Controller}

/-- Throughout a lifetime the policy in force is the one that its rounds decide on. -/
theorem adapted (lifetime : Lifetime config history controller) :
    controller.Adapted config.adaptation (history.observed config) := by
  refine lifetime.invariant (motive := fun history controller =>
    controller.Adapted config.adaptation (history.observed config)) ?_ ?_ ?_
  · exact Controller.adapted_start config
  · intro history before prior adapted
    rw [History.observed, prior.starts_round, List.map_append, List.map_singleton]
    exact adapted.runRound prior.ledgered.sound
  · intro history before operation between prior adapted
    rw [History.observed, prior.starts_between between]
    exact adapted.perform between

/-- Throughout a lifetime the policy in force is a function of the last full window. -/
theorem followsWindows (lifetime : Lifetime config history controller) :
    controller.FollowsWindows config history := by
  have adapted := lifetime.adapted
  have length : Adaptation.windowLength config.adaptation = config.adaptation.windowRounds :=
    max_eq_right lifetime.accepted.passes.windowRounds
  have positive := Adaptation.windowLength_pos config.adaptation
  rw [length] at positive
  have decides := adapted.decides
  constructor
  case rounds => exact adapted.round.symm
  case early =>
    intro few
    rw [adapted.round, ← length] at few
    exact decides.early few
  case chosen =>
    intro enough
    have windows := Nat.div_pos enough positive
    have bounded := Nat.div_mul_le_self controller.round config.adaptation.windowRounds
    have ends := Nat.mul_pos windows positive
    have inside : controller.round / config.adaptation.windowRounds *
        config.adaptation.windowRounds - 1 < (history.observed config).length := by
      rw [← adapted.round]
      exact Nat.lt_of_lt_of_le (Nat.sub_lt ends Nat.one_pos) bounded
    refine ⟨_, List.getElem?_eq_getElem inside, ?_, ?_⟩
    · refine length_windowOf ?_
      rw [List.length_map, ← adapted.round]
      exact Nat.sub_lt windows Nat.one_pos
    · have chosen := decides.chosen
      rw [length, ← adapted.round] at chosen
      exact chosen enough _ (List.getElem?_eq_getElem inside)
  case switches =>
    rw [← length]
    exact adapted.policySwitch_runRound lifetime.ledgered.sound
  case weighted =>
    refine ⟨adapted.weighted, ?_⟩
    rw [Controller.policy_selecting]
    exact adapted.weighted_next
  case record =>
    have tail := adapted.summarises.history
    rwa [Recent.IsTailOf, Adaptation.length_means, List.length_map, ← adapted.round,
      adapted.summarises.capacity, length] at tail

/-- Two windows of two rounds: in the first no worker is at work when it is sampled, and in the
second one is, under a full load. The fourth round reports the switch. -/
theorem followsWindows_after_full_load :
    let start := Controller.start
      { pool := { workers := 1 }, adaptation := { windowRounds := 2, historyCapacity := 0 } }
    let operations : List Operation :=
      [.submit ⟨[1]⟩ .high, .round, .receive (.completion ⟨0, 1, .exhausted, .ofFloat 100⟩),
        .submit ⟨[2]⟩ .low, .round, .round]
    let history := start.stepsOf operations
    let controller := start.after operations
    Lifetime
        { pool := { workers := 1 }, adaptation := { windowRounds := 2, historyCapacity := 0 } }
        history controller ∧
      controller.policy.kind = .priorityBased ∧
      controller.runRound.2.log.policySwitch = some ⟨.priorityBased, .loadBalanced⟩ ∧
      controller.FollowsWindows
        { pool := { workers := 1 }, adaptation := { windowRounds := 2, historyCapacity := 0 } }
        history := by
  intro start operations history controller
  have lifetime : Lifetime
      { pool := { workers := 1 }, adaptation := { windowRounds := 2, historyCapacity := 0 } }
      history controller := (Lifetime.start rfl).after operations
  refine ⟨lifetime, ?_, ?_, lifetime.followsWindows⟩ <;> decide +kernel

end Lifetime

end PoolArbiter
