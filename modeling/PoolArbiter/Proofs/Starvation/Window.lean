import Mathlib.Data.List.Chain
import PoolArbiter.Proofs.Custody.ExactlyOnce
import PoolArbiter.Proofs.Starvation.Service

/-!
# Windows of rounds

The starvation guard and the adaptation count the rounds of a window together, so
the guard starts a new window after every window of adaptation and never in the
middle of one. `Controller.Windowed` is the invariant; `Controller.Continues` is
what it says of two rounds of one window.
-/

namespace PoolArbiter

/-- The place in a window goes on by one or starts again. -/
theorem succ_mod_eq (round : Nat) {window : Nat} (positive : 0 < window) :
    (round + 1) % window =
      if round % window + 1 < window then round % window + 1 else 0 := by
  have bounded := Nat.mod_lt round positive
  rw [Nat.add_mod]
  split
  next isOpen =>
    rw [Nat.mod_eq_of_lt (Nat.lt_of_le_of_lt (Nat.le_add_left 1 _) isOpen),
      Nat.mod_eq_of_lt isOpen]
  next isClosed =>
    have last : round % window + 1 = window := by omega
    by_cases single : window = 1
    · subst single
      exact Nat.mod_one _
    · rw [Nat.mod_eq_of_lt (by omega : 1 < window), last, Nat.mod_self]

namespace StarvationGuard

variable {guard : StarvationGuard}

/-- Within a window the guard goes on to the next place. -/
theorem advance_of_open (isOpen : guard.roundInWindow + 1 < guard.window) :
    guard.advance = { guard with roundInWindow := guard.roundInWindow + 1 } :=
  if_neg (Nat.not_le.2 isOpen)

/-- At the end of a window the guard starts again. -/
theorem advance_of_closed (isClosed : ¬ guard.roundInWindow + 1 < guard.window) :
    guard.advance = guard.restart := by
  unfold advance
  dsimp only
  rw [if_pos (Nat.not_lt.1 isClosed)]
  rfl

/-- The next round of the same window: the marks are kept, and the tiers that were
served are marked. -/
structure Keeps (guard next : StarvationGuard) (served : List Tier) : Prop where
  window : next.window = guard.window
  place : next.roundInWindow = guard.roundInWindow + 1
  serviced : ∀ tier, next.serviced.get tier = true ↔
    guard.serviced.get tier = true ∨ tier ∈ served

variable (slack : Nat) (served : List Tier)

/-- Within a window the guard keeps its marks. -/
theorem keeps_of_open (isOpen : guard.roundInWindow + 1 < guard.window) :
    guard.Keeps ((guard.markAll served).withSlack slack).advance served := by
  have marked : ((guard.markAll served).withSlack slack).roundInWindow + 1 <
      ((guard.markAll served).withSlack slack).window := by
    simpa [withSlack] using isOpen
  rw [advance_of_open marked]
  constructor
  · exact window_markAll guard served
  · exact congrArg (· + 1) (roundInWindow_markAll guard served)
  · exact fun _ => serviced_markAll guard served

/-- At the end of a window the guard starts anew. -/
theorem close_of_closed (isClosed : ¬ guard.roundInWindow + 1 < guard.window) :
    ((guard.markAll served).withSlack slack).advance =
      ((guard.markAll served).withSlack slack).restart := by
  apply advance_of_closed
  simpa [withSlack] using isClosed

end StarvationGuard

namespace Adaptation

variable {adaptation : Adaptation} {utilization : Float} {policy : Policy} {modes : Modes}

/-- Within a window the adaptation only takes a sample. -/
theorem onRound_of_open (isOpen : adaptation.roundsInWindow + 1 < adaptation.window) :
    adaptation.onRound utilization policy modes = (adaptation.sample utilization, none) :=
  if_pos isOpen

/-- At the end of a window the adaptation closes it. -/
theorem onRound_of_closed (isClosed : ¬ adaptation.roundsInWindow + 1 < adaptation.window) :
    (adaptation.onRound utilization policy modes).1 =
      (adaptation.sample utilization).closeWindow :=
  congrArg Prod.fst (if_neg isClosed)

/-- The slack of a level is at most a quarter of a word. -/
theorem slackFor_le (adaptation : Adaptation) (level : Nat) :
    adaptation.slackFor level ≤ Binary64.greatestWord / 4 := by
  unfold slackFor
  split
  · exact Nat.div_le_div_right (Word.wrap_le_greatestWord _)
  · split <;> decide

end Adaptation

/-- Adaptation sees the round, and logs a switch only if it has a new policy. -/
theorem Turn.adapt_onRound (turn : Turn) :
    let seen := turn.controller.adaptation.onRound turn.controller.pool.meanActiveLoad
      turn.controller.policy turn.controller.modes
    turn.adapt.controller.adaptation = seen.1 ∧
      (seen.2 = none → turn.adapt.log.policySwitch = turn.log.policySwitch) := by
  intro seen
  unfold adapt
  dsimp only
  split
  next kept => exact ⟨rfl, fun _ => rfl⟩
  next replaced => exact ⟨rfl, fun none => absurd (replaced.symm.trans none) (by simp)⟩

/-- The end of a round sets the slack for the level it has come to. -/
theorem Turn.slack_report (turn : Turn) :
    turn.settleQuality.report.1.queues.guard.slack =
      turn.controller.adaptation.slackFor turn.settleQuality.controller.quality.state.level := by
  have closed := turn.guard_report
  dsimp only at closed
  rw [closed]
  unfold StarvationGuard.advance
  dsimp only
  split <;> split <;> rfl

namespace Controller

/-- The guard and the adaptation have seen as many rounds of a window, and no tier
was served before the first of them. -/
structure Windowed (window : Nat) (controller : Controller) : Prop where
  guard : controller.queues.guard.window = window
  place : controller.queues.guard.roundInWindow = controller.round % window
  adaptation : controller.adaptation.window = window
  sampled : controller.adaptation.roundsInWindow = controller.round % window
  unserved : controller.round % window = 0 →
    ∀ tier, controller.queues.guard.serviced.get tier = false

/-- A fresh controller starts a window. -/
theorem windowed_start (config : Configuration) :
    (start config).Windowed (max 1 config.adaptation.windowRounds) where
  guard := Nat.max_eq_right (Nat.le_max_left 1 _)
  place := (Nat.zero_mod _).symm
  adaptation := rfl
  sampled := (Nat.zero_mod _).symm
  unserved := fun _ tier => PerTier.get_tabulate _ tier

variable {controller : Controller} {window : Nat}

/-- The adaptation of a round either only takes a sample or closes a window. -/
theorem adaptation_selecting (controller : Controller) :
    ∃ utilization policy modes, controller.selecting.controller.adaptation =
        (controller.adaptation.onRound utilization policy modes).1 ∧
      ((controller.adaptation.onRound utilization policy modes).2 = none →
        controller.selecting.log.policySwitch = none) := by
  have policySwitch : controller.capped.log.policySwitch = none :=
    congrArg (·.policySwitch) (frame_capped controller)
  refine ⟨controller.capped.controller.pool.meanActiveLoad, controller.capped.controller.policy,
    controller.capped.controller.modes, ?_⟩
  rw [selecting_eq, ← controller.adaptation_capped, ← policySwitch]
  exact controller.capped.adapt_onRound

/-- After the adaptation a round leaves it alone. -/
theorem Sound.adaptation_runRound (sound : controller.Sound) :
    controller.runRound.1.adaptation = controller.selecting.controller.adaptation := by
  have same := congrArg Frame.adaptation sound.frame_runRound
  simpa only [frame] using same

/-- What a round does to the guard. -/
theorem Sound.guard_runRound (sound : controller.Sound) :
    ∃ slack, controller.runRound.1.queues.guard =
      let closed := ((controller.queues.guard.markAll controller.assignedTiers).withSlack
        slack).advance
      if controller.selecting.log.policySwitch.isSome then closed.restart else closed := by
  have reported := Turn.guard_report controller.selecting.assignAll
  have log := congrArg RoundLog.policySwitch
    (Turn.assignAll_assigns sound.selecting.sound).log_eq
  rw [sound.serves.guard, guard_selecting, log, ← runRound_eq] at reported
  exact ⟨_, reported⟩

variable (positive : 0 < window) (windowed : controller.Windowed window)
include windowed

/-- In the middle of a window the guard keeps its marks. -/
theorem Sound.guard_of_open (sound : controller.Sound)
    (isOpen : controller.round % window + 1 < window) :
    controller.queues.guard.Keeps controller.runRound.1.queues.guard
      controller.assignedTiers := by
  obtain ⟨slack, guard⟩ := sound.guard_runRound
  obtain ⟨utilization, policy, modes, _, unswitched⟩ := adaptation_selecting controller
  have unchanged := unswitched (congrArg Prod.snd (Adaptation.onRound_of_open
    (by rw [windowed.adaptation, windowed.sampled]; exact isOpen)))
  rw [← windowed.place, ← windowed.guard] at isOpen
  have kept := StarvationGuard.keeps_of_open slack controller.assignedTiers isOpen
  rw [unchanged] at guard
  dsimp only [Option.isSome] at guard
  rw [if_neg Bool.false_ne_true] at guard
  rw [guard]
  exact kept

/-- At the end of a window the guard starts anew. -/
theorem Sound.guard_of_closed (sound : controller.Sound)
    (isClosed : ¬ controller.round % window + 1 < window) :
    ∃ slack, controller.runRound.1.queues.guard =
      ((controller.queues.guard.markAll controller.assignedTiers).withSlack slack).restart := by
  obtain ⟨slack, guard⟩ := sound.guard_runRound
  rw [← windowed.place, ← windowed.guard] at isClosed
  rw [StarvationGuard.close_of_closed _ _ isClosed] at guard
  refine ⟨slack, guard.trans ?_⟩
  generalize controller.assignedTiers = tiers
  dsimp only
  split <;> rfl

/-- A round within a window keeps controller and windows in step. -/
theorem Sound.windowed_of_open (sound : controller.Sound)
    (isOpen : controller.round % window + 1 < window)
    (place : controller.runRound.1.round % window = controller.round % window + 1) :
    controller.runRound.1.Windowed window := by
  obtain ⟨utilization, policy, modes, adaptation, _⟩ := adaptation_selecting controller
  have keeps := sound.guard_of_open windowed isOpen
  rw [← sound.adaptation_runRound, Adaptation.onRound_of_open (by
    rw [windowed.adaptation, windowed.sampled]; exact isOpen)] at adaptation
  constructor
  · exact keeps.window.trans windowed.guard
  · rw [keeps.place, windowed.place, place]
  · rw [adaptation]
    exact windowed.adaptation
  · rw [adaptation, place]
    exact congrArg (· + 1) windowed.sampled
  · intro first
    exact absurd (place.symm.trans first) (Nat.succ_ne_zero _)

/-- A round at the end of a window keeps controller and windows in step. -/
theorem Sound.windowed_of_closed (sound : controller.Sound)
    (isClosed : ¬ controller.round % window + 1 < window)
    (place : controller.runRound.1.round % window = 0) :
    controller.runRound.1.Windowed window := by
  obtain ⟨utilization, policy, modes, adaptation, _⟩ := adaptation_selecting controller
  obtain ⟨slack, guard⟩ := sound.guard_of_closed windowed isClosed
  generalize controller.assignedTiers = tiers at guard
  rw [← sound.adaptation_runRound, Adaptation.onRound_of_closed (by
    rw [windowed.adaptation, windowed.sampled]; exact isClosed)] at adaptation
  constructor
  · rw [guard]
    exact (StarvationGuard.window_markAll _ _).trans windowed.guard
  · rw [guard, place]
    rfl
  · rw [adaptation]
    exact windowed.adaptation
  · rw [adaptation, place]
    rfl
  · intro _ tier
    rw [guard]
    exact PerTier.get_tabulate _ tier

include positive in
/-- A round leaves the counts of a window in step. -/
theorem Sound.windowed_runRound (sound : controller.Sound) :
    controller.runRound.1.Windowed window := by
  have place := succ_mod_eq controller.round positive
  rw [← sound.round_runRound] at place
  by_cases isOpen : controller.round % window + 1 < window
  · rw [if_pos isOpen] at place
    exact sound.windowed_of_open windowed isOpen place
  · rw [if_neg isOpen] at place
    exact sound.windowed_of_closed windowed isOpen place

/-- Between two rounds nothing is counted. -/
theorem Windowed.perform {operation : Operation} (between : operation ≠ .round) :
    (controller.perform operation).1.Windowed window := by
  have frame := frame_perform controller operation between
  have guard : (controller.perform operation).1.queues.guard = controller.queues.guard :=
    congrArg (·.guard) frame
  have adaptation : (controller.perform operation).1.adaptation = controller.adaptation :=
    congrArg (·.adaptation) frame
  have round := round_perform controller operation between
  constructor
  · rw [guard]
    exact windowed.guard
  · rw [guard, round]
    exact windowed.place
  · rw [adaptation]
    exact windowed.adaptation
  · rw [adaptation, round]
    exact windowed.sampled
  · rw [guard, round]
    exact windowed.unserved

end Controller

/-- Throughout a lifetime the guard and the adaptation are in step. -/
theorem Lifetime.windowed {config : Configuration} {history : History} {controller : Controller}
    (lifetime : Lifetime config history controller) :
    controller.Windowed (max 1 config.adaptation.windowRounds) := by
  have positive : 0 < max 1 config.adaptation.windowRounds :=
    Nat.lt_of_lt_of_le Nat.zero_lt_one (Nat.le_max_left _ _)
  exact lifetime.invariant
    (motive := fun _ controller => controller.Windowed (max 1 config.adaptation.windowRounds))
    (Controller.windowed_start config)
    (fun prior windowed => prior.ledgered.sound.windowed_runRound positive windowed)
    fun _ between _ windowed => windowed.perform between

/-- Throughout a lifetime the slack of the guard is at most a quarter of a word, so the starved
tiers can be added to it. -/
theorem Lifetime.slack_le {config : Configuration} {history : History} {controller : Controller}
    (lifetime : Lifetime config history controller) :
    controller.queues.guard.slack ≤ Binary64.greatestWord / 4 := by
  refine lifetime.invariant (motive := fun _ controller =>
    controller.queues.guard.slack ≤ Binary64.greatestWord / 4) ?_ ?_ ?_
  · exact Nat.div_le_div_right (Word.wrap_le_greatestWord _)
  · intro _ before _ _
    rw [Controller.runRound_eq, Turn.slack_report]
    exact Adaptation.slackFor_le _ _
  · intro _ before operation between _ bounded
    have guard : (before.perform operation).1.queues.guard = before.queues.guard :=
      congrArg (·.guard) (before.frame_perform operation between)
    rw [guard]
    exact bounded

namespace Controller

/-- The rounds that are left in the window, the coming one included. -/
def roundsLeft (controller : Controller) : Nat :=
  controller.queues.guard.window - controller.queues.guard.roundInWindow

/-- What a round of a window hands on to the next one: the guard keeps its marks and
marks the tiers that the round served. -/
structure Continues (controller next : Controller) : Prop where
  roundsLeft : next.roundsLeft + 1 = controller.roundsLeft
  serviced : ∀ tier, next.queues.guard.serviced.get tier = true ↔
    controller.queues.guard.serviced.get tier = true ∨ tier ∈ controller.assignedTiers

/-- The starts of the rounds of one window of a run. -/
def windowStarts (controller : Controller) (operations : List Operation)
    (length index : Nat) : List Controller :=
  ((controller.roundStarts operations).drop (index * length)).take length

/-- Nothing happens to the guard between two rounds. -/
structure Follows (controller next : Controller) : Prop where
  round : next.round = controller.round + 1
  guard : next.queues.guard = controller.runRound.1.queues.guard

variable {controller : Controller} {window : Nat}

/-- The rounds left are those of the window without the rounds that it has seen. -/
theorem Windowed.roundsLeft_eq (windowed : controller.Windowed window) :
    controller.roundsLeft = window - controller.round % window := by
  rw [roundsLeft, windowed.guard, windowed.place]

/-- Within a window the next round continues it. -/
theorem Sound.continues (sound : controller.Sound) (windowed : controller.Windowed window)
    (isOpen : controller.round % window + 1 < window) {next : Controller}
    (follows : controller.Follows next) : controller.Continues next := by
  have keeps := sound.guard_of_open windowed isOpen
  rw [← follows.guard] at keeps
  refine ⟨?_, keeps.serviced⟩
  have inside : controller.queues.guard.roundInWindow + 1 < controller.queues.guard.window := by
    rw [windowed.place, windowed.guard]
    exact isOpen
  rw [roundsLeft, roundsLeft, keeps.window, keeps.place]
  omega

end Controller

namespace Lifetime

open Controller

variable {config : Configuration} {history : History} {controller : Controller}
  {operations : List Operation}

/-- Every round of a lifetime starts in a state of it. -/
theorem of_mem_roundStarts (lifetime : Lifetime config history controller) :
    ∀ start ∈ controller.roundStarts operations,
      ∃ history, Lifetime config history start := by
  induction operations generalizing history controller with
  | nil => simp [roundStarts]
  | cons operation rest inductionHypothesis =>
      intro start member
      have later := inductionHypothesis (lifetime.step operation) start
      by_cases isRound : operation = .round
      · subst isRound
        rw [roundStarts_round, List.mem_cons] at member
        rcases member with rfl | member
        · exact ⟨history, lifetime⟩
        · exact later member
      · rw [roundStarts_between controller isRound] at member
        exact later member

variable (operations) in
/-- Each round starts with the guard that the round before it left. -/
theorem chain_roundStarts (lifetime : Lifetime config history controller) :
    (controller.roundStarts operations).IsChain Follows ∧
      ∀ first ∈ (controller.roundStarts operations).head?,
        first.round = controller.round ∧ first.queues.guard = controller.queues.guard := by
  induction operations generalizing history controller with
  | nil => simp [roundStarts]
  | cons operation rest inductionHypothesis =>
      obtain ⟨chain, head⟩ := inductionHypothesis (lifetime.step operation)
      by_cases isRound : operation = .round
      · subst isRound
        rw [roundStarts_round]
        refine ⟨List.isChain_cons.2 ⟨?_, chain⟩, ?_⟩
        · intro next member
          obtain ⟨round, guard⟩ := head next member
          exact ⟨round.trans lifetime.ledgered.sound.round_runRound, guard⟩
        · rintro first ⟨⟩
          exact ⟨rfl, rfl⟩
      · rw [roundStarts_between controller isRound]
        have frame := frame_perform controller operation isRound
        have guard : (controller.perform operation).1.queues.guard = controller.queues.guard :=
          congrArg (·.guard) frame
        rw [round_perform controller operation isRound, guard] at head
        exact ⟨chain, head⟩

/-- The rounds are numbered one after the other. -/
theorem round_of_roundStarts (lifetime : Lifetime config history controller) {place : Nat}
    {start : Controller} (found : (controller.roundStarts operations)[place]? = some start) :
    start.round = controller.round + place := by
  obtain ⟨chain, head⟩ := lifetime.chain_roundStarts operations
  induction place generalizing start with
  | zero => exact (head start (by rwa [List.head?_eq_getElem?])).1
  | succ place inductionHypothesis =>
      obtain ⟨inside, rfl⟩ := List.getElem?_eq_some_iff.1 found
      have earlier := inductionHypothesis
        (List.getElem?_eq_getElem (Nat.lt_of_succ_lt inside))
      have follows := chain.getElem place inside
      rw [follows.round, earlier]
      rfl

variable {window index : Nat}

/-- The rounds of a window bear consecutive numbers. -/
theorem round_of_windowStarts (lifetime : Lifetime config history controller) {place : Nat}
    {start : Controller}
    (found : (controller.windowStarts operations window index)[place]? = some start) :
    start.round = controller.round + (index * window + place) := by
  obtain ⟨inside, rfl⟩ := List.getElem?_eq_some_iff.1 found
  have among : (controller.roundStarts operations)[index * window + place]? =
      some (controller.windowStarts operations window index)[place] := by
    unfold windowStarts at inside ⊢
    simp
  exact lifetime.round_of_roundStarts among

/-- The rounds of one window continue each other. -/
theorem chain_windowStarts (lifetime : Lifetime config history controller)
    (aligned : controller.round % window = 0)
    (length : max 1 config.adaptation.windowRounds = window) :
    (controller.windowStarts operations window index).IsChain Continues := by
  obtain ⟨chain, _⟩ := lifetime.chain_roundStarts operations
  have follows := (chain.drop (index * window)).take window
  rw [List.isChain_iff_getElem]
  intro place inside
  have early : place < (controller.windowStarts operations window index).length :=
    Nat.lt_of_succ_lt inside
  have bound : place + 1 < window :=
    Nat.lt_of_lt_of_le inside (List.length_take_le window _)
  have round := lifetime.round_of_windowStarts (List.getElem?_eq_getElem early)
  obtain ⟨earlier, reached⟩ := lifetime.of_mem_roundStarts _
    (List.mem_of_mem_drop (List.mem_of_mem_take (List.getElem_mem early)))
  have windowed := reached.windowed
  rw [length] at windowed
  refine reached.ledgered.sound.continues windowed ?_ (follows.getElem place inside)
  rw [round, Nat.add_mod, aligned, Nat.zero_add, Nat.mod_mod, Nat.mul_add_mod_self_right,
    Nat.mod_eq_of_lt (Nat.lt_of_succ_lt bound)]
  exact bound

/-- A window begins with all its rounds left and no tier served. -/
theorem head_windowStarts (lifetime : Lifetime config history controller)
    (aligned : controller.round % window = 0)
    (length : max 1 config.adaptation.windowRounds = window) {first : Controller}
    (head : (controller.windowStarts operations window index).head? = some first) :
    first.roundsLeft = window ∧ ∀ tier, first.queues.guard.serviced.get tier = false := by
  rw [List.head?_eq_getElem?] at head
  have round := lifetime.round_of_windowStarts head
  obtain ⟨earlier, reached⟩ := lifetime.of_mem_roundStarts _
    (List.mem_of_mem_drop (List.mem_of_mem_take (List.mem_of_getElem? head)))
  have windowed := reached.windowed
  rw [length] at windowed
  have start : first.round % window = 0 := by
    rw [round, Nat.add_zero, Nat.add_mul_mod_self_right, aligned]
  refine ⟨?_, windowed.unserved start⟩
  rw [windowed.roundsLeft_eq, start, Nat.sub_zero]

end Lifetime

end PoolArbiter
