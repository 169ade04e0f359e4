import Mathlib.Logic.Function.Basic
import PoolArbiter.Controller.Loop
import PoolArbiter.Proofs.Round.Dispatch

/-!
# The courses of a loop

While a loop has the controller, ticks and the stop become ready at any time and in any
order, and others go on to submit, to report, to turn the switches and to read their
streams. `Loop.Course` holds every way in which this can go: the loop takes any wake-up
that is ready, and where both are, either of them. What it then does is one step of
`Controller.runFrom`, and a loop that nobody disturbs goes as `Controller.run` says
(`Loop.exists_course_of_run`).
-/

namespace PoolArbiter

/-- What others can do while a loop has the controller. -/
inductive Traffic where
  | submit (payload : Payload) (tier : Tier)
  | receive (report : Report)
  | setModes (modes : Modes)
  | readHits
  | abandonHits
  | readReports
  | unsubscribe

/-- What can happen to a loop. -/
inductive Happening where
  /-- A wake-up becomes ready. -/
  | ready (wakeUp : WakeUp)
  /-- The loop takes a wake-up that is ready. -/
  | take (wakeUp : WakeUp)
  | meet (traffic : Traffic)

namespace Controller

/-- What others do to a controller. -/
def meet (controller : Controller) : Traffic → Controller
  | .submit payload tier => (controller.submit payload tier).1
  | .receive report => controller.receive report
  | .setModes modes => controller.withModes modes
  | .readHits => controller.readHits.1
  | .abandonHits => controller.abandonHits
  | .readReports => controller.readReports.1
  | .unsubscribe => controller.unsubscribe

/-- The reports that others take away. -/
def handOut (controller : Controller) : Traffic → List RoundReport
  | .readReports => controller.readReports.2
  | _ => []

/-- What a loop returns, once it ends. -/
def LoopEnd.result? : LoopEnd → Option (Except Refusal Nat)
  | .stopped rounds => some (.ok rounds)
  | .locked => some (.error .lockdown)
  | .waiting => none

/-- Whether the round that starts from here ends with the lockdown active. -/
def locks (controller : Controller) : Bool :=
  controller.runRound.1.gate.lockdown

variable (controller : Controller)

/-- A tick runs a round and delivers its report. -/
theorem tick_eq :
    controller.tick =
      { controller.runRound.1 with
        subscription := controller.runRound.1.subscription.deliver controller.runRound.2 } := by
  rw [tick]

/-- After a tick the lockdown is the one that its round ends with. -/
theorem lockdown_tick : controller.tick.gate.lockdown = controller.locks := by
  rw [tick_eq, locks]

/-- A tick counts a round. -/
theorem round_tick : controller.tick.round = controller.round + 1 := by
  rw [tick_eq, round_runRound]

/-- The report of a round goes to whoever was subscribed before it. -/
theorem subscription_tick :
    controller.tick.subscription = controller.subscription.deliver controller.runRound.2 := by
  rw [tick_eq, subscription_runRound]

end Controller

/-- A loop, with what it has done since it was entered. -/
structure Loop where
  /-- The last round before the loop. -/
  start : Round
  controller : Controller
  /-- The wake-ups that wait to be taken. -/
  ready : WakeUp → Bool
  ended : Controller.LoopEnd
  /-- The controllers from which its rounds started, first round first. -/
  begun : List Controller
  /-- The reports that the subscriber has read since. -/
  read : List RoundReport

namespace Loop

/-- A loop that is entered. -/
def enter (controller : Controller) : Loop where
  start := controller.round
  controller := controller
  ready := fun _ => false
  ended := .waiting
  begun := []
  read := []

/-- A wake-up waits from now on. -/
def announce (loop : Loop) (wakeUp : WakeUp) : Loop :=
  { loop with ready := Function.update loop.ready wakeUp true }

/-- Take a wake-up. -/
def take (loop : Loop) (wakeUp : WakeUp) : Loop :=
  let woken := Controller.runFrom loop.start [wakeUp] loop.controller
  { loop with
    controller := woken.1
    ready := Function.update loop.ready wakeUp false
    ended := woken.2
    begun := loop.begun ++ if wakeUp = .tick then [loop.controller] else [] }

/-- Others come and go. -/
def meet (loop : Loop) (traffic : Traffic) : Loop :=
  { loop with
    controller := loop.controller.meet traffic
    read := loop.read ++ loop.controller.handOut traffic }

/-- The reports of the rounds of a loop. -/
def reports (loop : Loop) : List RoundReport :=
  loop.begun.map (·.runRound.2)

/-- Everything that can happen to a loop from its entry on. A loop that has ended takes no
wake-up; what its subscriber has not read yet can be read after the end. -/
inductive Course (controller : Controller) : List Happening → Loop → Prop where
  | enter : Course controller [] (.enter controller)
  | announce {happenings loop} (prior : Course controller happenings loop) (wakeUp : WakeUp) :
      Course controller (happenings ++ [.ready wakeUp]) (loop.announce wakeUp)
  | take {happenings loop wakeUp} (prior : Course controller happenings loop)
      (waits : loop.ended = .waiting) (ready : loop.ready wakeUp = true) :
      Course controller (happenings ++ [.take wakeUp]) (loop.take wakeUp)
  | meet {happenings loop} (prior : Course controller happenings loop) (traffic : Traffic) :
      Course controller (happenings ++ [.meet traffic]) (loop.meet traffic)

section Steps

variable (loop : Loop) (traffic : Traffic)

/-- The loop remembers the round that it started from. -/
theorem start_take (wakeUp : WakeUp) : (loop.take wakeUp).start = loop.start :=
  rfl

/-- Waking up reads no report. -/
theorem read_take (wakeUp : WakeUp) : (loop.take wakeUp).read = loop.read :=
  rfl

/-- On a tick the loop runs a round. -/
theorem controller_take_tick : (loop.take .tick).controller = loop.controller.tick := by
  simp only [take, Controller.runFrom]
  split <;> rfl

/-- After a tick the loop ends if the round ends in a lockdown. -/
theorem ended_take_tick :
    (loop.take .tick).ended = if loop.controller.locks then .locked else .waiting := by
  simp only [take, Controller.runFrom, Controller.lockdown_tick]
  split <;> rfl

/-- On a tick a round is begun. -/
theorem begun_take_tick : (loop.take .tick).begun = loop.begun ++ [loop.controller] :=
  rfl

/-- On a shutdown the loop runs no round. -/
theorem controller_take_shutdown : (loop.take .shutdown).controller = loop.controller :=
  rfl

/-- On a shutdown the loop ends with the number of its rounds. -/
theorem ended_take_shutdown :
    (loop.take .shutdown).ended = .stopped (loop.controller.round - loop.start) :=
  rfl

/-- On a shutdown no round is begun. -/
theorem begun_take_shutdown : (loop.take .shutdown).begun = loop.begun :=
  List.append_nil _

/-- On a tick a report is made. -/
theorem reports_take_tick :
    (loop.take .tick).reports = loop.reports ++ [loop.controller.runRound.2] := by
  simp only [reports, begun_take_tick, List.map_append, List.map_singleton]

/-- On a shutdown no report is made. -/
theorem reports_take_shutdown : (loop.take .shutdown).reports = loop.reports := by
  rw [reports, begun_take_shutdown, reports]

/-- Requests from outside make no report. -/
theorem reports_meet : (loop.meet traffic).reports = loop.reports :=
  rfl

end Steps

end Loop

namespace Controller

variable (controller : Controller)

/-- Others leave the number of the round alone, and only the subscriber touches the
subscription. -/
theorem address_meet (traffic : Traffic) :
    (controller.meet traffic).address =
      { round := controller.round
        subscription :=
          match traffic with
          | .readReports => controller.readReports.1.subscription
          | .unsubscribe => controller.unsubscribe.subscription
          | _ => controller.subscription } := by
  cases traffic with
  | submit payload tier =>
      simp only [meet, submit]
      split
      · rfl
      · split <;> rfl
  | receive report => rfl
  | setModes modes => rfl
  | readHits =>
      simp only [meet, readHits]
      split <;> rfl
  | abandonHits =>
      simp only [meet, abandonHits]
      split <;> rfl
  | readReports =>
      simp only [meet, readReports]
      split <;> rfl
  | unsubscribe =>
      simp only [meet, unsubscribe]
      split <;> rfl

/-- Requests from outside count no round. -/
theorem round_meet (traffic : Traffic) : (controller.meet traffic).round = controller.round :=
  congrArg Address.round (controller.address_meet traffic)

/-- The subscription changes when its reports are read and when it is given up. -/
theorem subscription_meet (traffic : Traffic) :
    (controller.meet traffic).subscription =
      match traffic with
      | .readReports => controller.readReports.1.subscription
      | .unsubscribe => controller.unsubscribe.subscription
      | _ => controller.subscription :=
  congrArg Address.subscription (controller.address_meet traffic)

/-- A loop goes on with the next wake-up as long as it has not ended. -/
theorem runFrom_cons (start : Round) (wakeUp : WakeUp) (rest : List WakeUp) :
    runFrom start (wakeUp :: rest) controller =
      if (runFrom start [wakeUp] controller).2 = .waiting then
        runFrom start rest (runFrom start [wakeUp] controller).1
      else
        runFrom start [wakeUp] controller := by
  cases wakeUp with
  | shutdown => rfl
  | tick =>
      simp only [runFrom]
      split <;> rfl

end Controller

namespace Loop

variable {controller : Controller} {happenings : List Happening} {loop : Loop}

/-- Wake-ups that are taken as they become ready. -/
theorem Course.exists_of_runFrom (course : Course controller happenings loop)
    (waits : loop.ended = .waiting) (alone : ∀ traffic, .meet traffic ∉ happenings)
    (wakeUps : List WakeUp) :
    ∃ later next, Course controller later next ∧ (∀ traffic, .meet traffic ∉ later) ∧
      Controller.runFrom loop.start wakeUps loop.controller = (next.controller, next.ended) := by
  induction wakeUps generalizing happenings loop with
  | nil => exact ⟨happenings, loop, course, alone, by rw [Controller.runFrom, waits]⟩
  | cons wakeUp rest inductionHypothesis =>
      have ready : (loop.announce wakeUp).ready wakeUp = true := Function.update_self ..
      have taken := (course.announce wakeUp).take waits ready
      have undisturbed : ∀ traffic,
          Happening.meet traffic ∉ (happenings ++ [.ready wakeUp]) ++ [.take wakeUp] := by
        simp [alone]
      rw [Controller.runFrom_cons]
      split
      next goesOn => exact inductionHypothesis taken goesOn undisturbed
      next => exact ⟨_, _, taken, undisturbed, rfl⟩

/-- A loop that follows a list of wake-ups is one that nobody disturbs. -/
theorem exists_course_of_run (controller : Controller) (wakeUps : List WakeUp) :
    ∃ happenings loop, Course controller happenings loop ∧
      (∀ traffic, .meet traffic ∉ happenings) ∧
      controller.run wakeUps = (loop.controller, loop.ended) :=
  Course.enter.exists_of_runFrom rfl (fun _ => List.not_mem_nil) wakeUps

end Loop

end PoolArbiter
