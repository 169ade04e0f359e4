import PoolArbiter.Controller.Operation

/-!
# The lifetime of a controller

A lifetime starts with a controller for an accepted configuration and performs one
operation after the other, in any order and with reports of any content.
`Lifetime config history controller` retains the whole history: every operation
with the round in which it was asked and the answer that was given. What a
submitter and a reader of the reports can tell about items is read off the history
by `History.admitted` and `History.records`, never off the state.
-/

namespace PoolArbiter

/-- Anything that can be asked of a controller. -/
inductive Operation where
  | submit (payload : Payload) (tier : Tier)
  | receive (report : Report)
  | setModes (modes : Modes)
  | setBudget (watts : Float)
  | round
  | withdraw (work : WorkId)
  | drain
  | resetSecurity

/-- Whether an operation is a round. -/
def Operation.isRound : Operation → Bool
  | .round => true
  | _ => false

/-- Every other operation is no round. -/
theorem Operation.isRound_eq_false {operation : Operation} (between : operation ≠ .round) :
    operation.isRound = false := by
  cases operation with
  | round => exact absurd rfl between
  | _ => rfl

/-- What an operation gives back. -/
inductive Answer where
  | done
  | submitted (outcome : Except Refusal WorkId)
  | reported (report : RoundReport)
  | withdrawn (outcome : Except Refusal DropRecord)
  | drained (drops : List DropRecord)

namespace Controller

/-- Perform one operation. -/
def perform (controller : Controller) : Operation → Controller × Answer
  | .submit payload tier =>
      ((controller.submit payload tier).1, .submitted (controller.submit payload tier).2)
  | .receive report => (controller.receive report, .done)
  | .setModes modes => (controller.withModes modes, .done)
  | .setBudget watts => (controller.withBudget watts, .done)
  | .round => (controller.runRound.1, .reported controller.runRound.2)
  | .withdraw work => ((controller.withdraw work).1, .withdrawn (controller.withdraw work).2)
  | .drain => (controller.drain.1, .drained controller.drain.2)
  | .resetSecurity => (controller.resetSecurity, .done)

end Controller

/-- One operation, with the round in which it was asked and its answer. -/
structure Step where
  operation : Operation
  round : Round
  answer : Answer

/-- The steps of a lifetime, first step first. -/
abbrev History := List Step

/-- The record with which an item ends. -/
inductive Record where
  | finished (result : WorkResult)
  | dropped (drop : DropRecord)
  deriving DecidableEq, Repr

namespace Record

/-- The number of the item that a record is about. -/
def work : Record → WorkId
  | .finished result => result.work
  | .dropped drop => drop.work

/-- A record closes an item if it repeats the number and the tier, and a result
also the round of submission. -/
def Closes : Record → WorkItem → Prop
  | .finished result, item =>
      result.work = item.id ∧ result.tier = item.tier ∧
        result.submittedRound = item.submittedRound
  | .dropped drop, item => drop.work = item.id ∧ drop.tier = item.tier

instance : ∀ (record : Record) (item : WorkItem), Decidable (record.Closes item)
  | .finished result, item =>
      inferInstanceAs (Decidable (result.work = item.id ∧ result.tier = item.tier ∧
        result.submittedRound = item.submittedRound))
  | .dropped drop, item =>
      inferInstanceAs (Decidable (drop.work = item.id ∧ drop.tier = item.tier))

/-- A record that closes an item names it. -/
theorem Closes.work_eq {record : Record} {item : WorkItem} (closes : record.Closes item) :
    record.work = item.id := by
  cases record <;> exact closes.1

/-- The result of an item closes it. -/
theorem closes_result (item : WorkItem) (worker : WorkerId) (outcome : Outcome)
    (round : Round) : (finished (item.result worker outcome round)).Closes item :=
  ⟨rfl, rfl, rfl⟩

/-- The drop of an item closes it. -/
theorem closes_dropRecord (item : WorkItem) (reason : DropReason) (round : Round) :
    (dropped (item.dropRecord reason round)).Closes item :=
  ⟨rfl, rfl⟩

end Record

/-- The records of a round: its results and its drops. -/
def RoundLog.records (log : RoundLog) : List Record :=
  log.results.map .finished ++ log.drops.map .dropped

namespace Step

/-- The item that a step admitted, as it was submitted. -/
def admitted? (step : Step) : Option WorkItem :=
  match step.operation, step.answer with
  | .submit payload tier, .submitted (.ok id) => some ⟨id, tier, payload, step.round⟩
  | _, _ => none

/-- The records that a step gave back. -/
def records (step : Step) : List Record :=
  match step.answer with
  | .reported report => report.log.records
  | .withdrawn (.ok drop) => [.dropped drop]
  | .drained drops => drops.map .dropped
  | _ => []

/-- The results that a step gave back. -/
def results (step : Step) : List WorkResult :=
  match step.answer with
  | .reported report => report.log.results
  | _ => []

/-- The drops that a step gave back. -/
def drops (step : Step) : List DropRecord :=
  match step.answer with
  | .reported report => report.log.drops
  | .withdrawn (.ok drop) => [drop]
  | .drained drops => drops
  | _ => []

/-- The items that a step queued again. -/
def requeued (step : Step) : List WorkId :=
  match step.answer with
  | .reported report => report.log.requeued
  | _ => []

/-- The assignments that a step made. -/
def assignments (step : Step) : List Assignment :=
  match step.answer with
  | .reported report => report.log.assignments
  | _ => []

end Step

namespace History

/-- The items that were submitted successfully, in the order of submission. -/
def admitted (history : History) : List WorkItem :=
  history.filterMap Step.admitted?

/-- The records that were given back, in their order. -/
def records (history : History) : List Record :=
  history.flatMap Step.records

/-- The results of a history, in their order. -/
def results (history : History) : List WorkResult :=
  history.flatMap Step.results

/-- The drops of a history, in their order. -/
def drops (history : History) : List DropRecord :=
  history.flatMap Step.drops

/-- The items that were queued again, once for each time. -/
def requeued (history : History) : List WorkId :=
  history.flatMap Step.requeued

/-- The assignments of a history, in their order. -/
def assignments (history : History) : List Assignment :=
  history.flatMap Step.assignments

/-- What a longer history admitted, its parts admitted one after the other. -/
@[simp]
theorem admitted_append (first second : History) :
    admitted (first ++ second) = admitted first ++ admitted second :=
  List.filterMap_append

/-- The records of a longer history are those of its parts, one after the other. -/
@[simp]
theorem records_append (first second : History) :
    records (first ++ second) = records first ++ records second :=
  List.flatMap_append

variable (history : History) (step : Step)

theorem results_concat : results (history ++ [step]) = history.results ++ step.results := by
  simp [results]

theorem drops_concat : drops (history ++ [step]) = history.drops ++ step.drops := by
  simp [drops]

theorem requeued_concat : requeued (history ++ [step]) = history.requeued ++ step.requeued := by
  simp [requeued]

theorem assignments_concat :
    assignments (history ++ [step]) = history.assignments ++ step.assignments := by
  simp [assignments]

end History

namespace Controller

/-- The step that performs an operation. -/
def stepOf (controller : Controller) (operation : Operation) : Step where
  operation := operation
  round := controller.round
  answer := (controller.perform operation).2

/-- The controller after several operations. -/
def after (controller : Controller) (operations : List Operation) : Controller :=
  operations.foldl (fun controller operation => (controller.perform operation).1) controller

/-- The controllers at the starts of the rounds among several operations. -/
def roundStarts (controller : Controller) : List Operation → List Controller
  | [] => []
  | operation :: rest =>
      let later := (controller.perform operation).1.roundStarts rest
      if operation.isRound then controller :: later else later

theorem after_cons (controller : Controller) (operation : Operation)
    (rest : List Operation) :
    controller.after (operation :: rest) = (controller.perform operation).1.after rest :=
  rfl

/-- A sequence of operations may be performed in two parts. -/
theorem after_append (controller : Controller) (first second : List Operation) :
    controller.after (first ++ second) = (controller.after first).after second :=
  List.foldl_append

/-- A round begins where it stands. -/
theorem roundStarts_round (controller : Controller) (rest : List Operation) :
    controller.roundStarts (.round :: rest) =
      controller :: (controller.perform .round).1.roundStarts rest :=
  rfl

/-- An operation between the rounds begins none. -/
theorem roundStarts_between (controller : Controller) {operation : Operation}
    (between : operation ≠ .round) (rest : List Operation) :
    controller.roundStarts (operation :: rest) =
      (controller.perform operation).1.roundStarts rest := by
  simp only [roundStarts, Operation.isRound_eq_false between]
  rfl

/-- The rounds of a sequence of operations begin in its first part or in the second. -/
theorem roundStarts_append (controller : Controller) (first second : List Operation) :
    controller.roundStarts (first ++ second) =
      controller.roundStarts first ++ (controller.after first).roundStarts second := by
  induction first generalizing controller with
  | nil => rfl
  | cons operation rest inductionHypothesis =>
      rw [List.cons_append, after_cons]
      by_cases isRound : operation = .round
      · subst isRound
        rw [roundStarts_round, roundStarts_round, inductionHypothesis, List.cons_append]
      · rw [roundStarts_between controller isRound, roundStarts_between controller isRound,
          inductionHypothesis]

theorem perform_round (controller : Controller) :
    (controller.perform .round).1 = controller.runRound.1 :=
  rfl

/-- Only a round gives a report. -/
theorem eq_runRound_of_reported {controller : Controller} {operation : Operation}
    {report : RoundReport}
    (reported : (controller.perform operation).2 = .reported report) :
    report = controller.runRound.2 := by
  cases operation with
  | round => exact (Answer.reported.inj reported).symm
  | _ => cases reported

/-- The steps that perform several operations. -/
def stepsOf (controller : Controller) : List Operation → History
  | [] => []
  | operation :: rest =>
      controller.stepOf operation :: (controller.perform operation).1.stepsOf rest

end Controller

/-- The lifetimes of a controller for a configuration that is accepted. -/
inductive Lifetime (config : Configuration) : History → Controller → Prop where
  | start {controller} (created : Controller.create config = .ok controller) :
      Lifetime config [] controller
  | step {history controller} (prior : Lifetime config history controller)
      (operation : Operation) :
      Lifetime config (history ++ [controller.stepOf operation])
        (controller.perform operation).1

namespace Lifetime

variable {config : Configuration} {history : History} {controller : Controller}

/-- Every lifetime starts from the same controller. -/
theorem start_eq {first : Controller} (created : Controller.create config = .ok first) :
    first = Controller.start config := by
  unfold Controller.create at created
  split at created
  · exact (Except.ok.inj created).symm
  · cases created

/-- What the first controller has, and every round and the operations between two rounds keep,
holds of every history and the controller that it leads to. -/
theorem invariant {motive : History → Controller → Prop}
    (lifetime : Lifetime config history controller) (initial : motive [] (.start config))
    (round : ∀ {history before}, Lifetime config history before → motive history before →
      motive (history ++ [before.stepOf .round]) before.runRound.1)
    (between : ∀ {history before} (operation : Operation), operation ≠ .round →
      Lifetime config history before → motive history before →
        motive (history ++ [before.stepOf operation]) (before.perform operation).1) :
    motive history controller := by
  induction lifetime with
  | start created => exact start_eq created ▸ initial
  | step prior operation inductionHypothesis =>
      by_cases isRound : operation = .round
      · rw [isRound]
        exact round prior inductionHypothesis
      · exact between operation isRound prior inductionHypothesis

/-- The operations of a history lead to its controller. -/
theorem after_operations (lifetime : Lifetime config history controller) :
    (Controller.start config).after (history.map (·.operation)) = controller := by
  induction lifetime with
  | start created => exact (start_eq created).symm
  | step _ operation inductionHypothesis =>
      rw [List.map_append, Controller.after_append, inductionHypothesis]
      rfl

/-- The last round of a history starts from the controller that came before it. -/
theorem starts_round (lifetime : Lifetime config history controller) :
    (Controller.start config).roundStarts
        ((history ++ [controller.stepOf .round]).map (·.operation)) =
      (Controller.start config).roundStarts (history.map (·.operation)) ++ [controller] := by
  rw [List.map_append, Controller.roundStarts_append, lifetime.after_operations]
  rfl

/-- An operation between the rounds adds none to the rounds that began. -/
theorem starts_between (lifetime : Lifetime config history controller)
    {operation : Operation} (between : operation ≠ .round) :
    (Controller.start config).roundStarts
        ((history ++ [controller.stepOf operation]).map (·.operation)) =
      (Controller.start config).roundStarts (history.map (·.operation)) := by
  rw [List.map_append, Controller.roundStarts_append, lifetime.after_operations]
  have none : controller.roundStarts [operation] = [] :=
    controller.roundStarts_between between []
  exact (congrArg (_ ++ ·) none).trans (List.append_nil _)

/-- A lifetime goes on with any operations. -/
theorem after (lifetime : Lifetime config history controller) (operations : List Operation) :
    Lifetime config (history ++ controller.stepsOf operations) (controller.after operations) := by
  induction operations generalizing history controller with
  | nil =>
      rw [Controller.stepsOf, List.append_nil]
      exact lifetime
  | cons operation rest inductionHypothesis =>
      have continued := inductionHypothesis (lifetime.step operation)
      rwa [List.append_assoc] at continued

end Lifetime

end PoolArbiter
