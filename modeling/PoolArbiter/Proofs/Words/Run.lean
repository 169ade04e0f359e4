import PoolArbiter.Proofs.Words.Totals

/-!
# A run in machine words

`Configuration.runInWords?` starts a controller and performs operations, all in words.
`Lifetime.performInWords?_eq` is the step: the history before an operation keeps the counters
in range that the operation computes with. By induction a run gives up just where one of the
four sums over workers is no word any more (`runInWords?_eq_some_iff`). So it exceeds a word
nowhere else, and it never takes a difference below zero, never divides by zero and never asks
for the slot of a worker that is not there.
-/

namespace PoolArbiter

namespace Controller

/-- Submit a payload under a number that is a word. -/
def submitInWords? (controller : Controller) (payload : Payload) (tier : Tier) :
    Option (Controller × Except Refusal WorkId) := do
  let _ ← Word.fit? controller.nextId
  return controller.submit payload tier

/-- Count drops that happen outside a round. -/
def recordDropsInWords? (controller : Controller) (drops : List DropRecord) :
    Option Controller := do
  let ledger ← controller.ledger.recordDropsInWords? drops
  return { controller with ledger := ledger }

/-- Take an item out of its queue. -/
def withdrawInWords? (controller : Controller) (work : WorkId) :
    Option (Controller × Except Refusal DropRecord) :=
  match controller.queues.withdraw? work with
  | none => some (controller, .error (.notQueued work))
  | some (item, queues) => do
      let drop := item.dropRecord .withdrawn controller.round
      let taken := { controller with queues := queues }.forgetItem item.id
      let counted ← taken.recordDropsInWords? [drop]
      return (counted, .ok drop)

/-- Take the item from one worker at work. -/
def drainWorkerInWords? (progress : Controller × List DropRecord) (worker : WorkerId) :
    Option (Controller × List DropRecord) := do
  let _ ← progress.1.pool.slot? worker
  return drainWorker progress worker

/-- Idle all workers at work and drop their items. -/
def drainInWords? (controller : Controller) : Option (Controller × List DropRecord) := do
  let (drained, drops) ←
    controller.pool.activeDescending.reverse.foldlM drainWorkerInWords? (controller, [])
  let counted ← drained.recordDropsInWords? drops
  return (counted, drops)

/-- Perform one operation. -/
def performInWords? (controller : Controller) : Operation → Option (Controller × Answer)
  | .submit payload tier => do
      let (next, outcome) ← controller.submitInWords? payload tier
      return (next, .submitted outcome)
  | .round => do
      let (next, report) ← controller.runRoundInWords?
      return (next, .reported report)
  | .withdraw work => do
      let (next, outcome) ← controller.withdrawInWords? work
      return (next, .withdrawn outcome)
  | .drain => do
      let (next, drops) ← controller.drainInWords?
      return (next, .drained drops)
  | operation => some (controller.perform operation)

/-- Perform several operations. -/
def afterInWords? (controller : Controller) (operations : List Operation) : Option Controller :=
  operations.foldlM
    (fun controller operation => (controller.performInWords? operation).map Prod.fst) controller

variable {controller : Controller} {results : List WorkResult} {drops : List DropRecord}
  {assigned : Nat}

/-- While the drops are fewer than the words, the controller counts them without overflow. -/
theorem recordDropsInWords?_eq (counts : controller.ledger.Counts results drops assigned)
    (more : List DropRecord) (few : drops.length + more.length ≤ Binary64.greatestWord) :
    controller.recordDropsInWords? more = some (controller.recordDrops more) := by
  simp only [recordDropsInWords?, counts.recordDropsInWords?_eq more few, Option.bind_eq_bind,
    Option.bind_some, Option.pure_def, recordDrops]

/-- While the drops are fewer than the words, a withdrawal does not overflow. -/
theorem withdrawInWords?_eq (counts : controller.ledger.Counts results drops assigned)
    {work : WorkId}
    (few : ∀ drop, (controller.withdraw work).2 = .ok drop →
      drops.length + 1 ≤ Binary64.greatestWord) :
    controller.withdrawInWords? work = some (controller.withdraw work) := by
  unfold withdrawInWords? withdraw
  unfold withdraw at few
  cases taken : controller.queues.withdraw? work with
  | none => rfl
  | some next =>
      obtain ⟨item, queues⟩ := next
      rw [taken] at few
      have kept : ({ controller with queues := queues }.forgetItem item.id).ledger.Counts results
          drops assigned := counts
      have counted := recordDropsInWords?_eq kept
        [item.dropRecord .withdrawn controller.round] (few _ rfl)
      dsimp only
      rw [counted]
      rfl

/-- While the drops are fewer than the words, draining does not overflow. -/
theorem drainInWords?_eq (sound : controller.Sound)
    (counts : controller.ledger.Counts results drops assigned)
    (few : drops.length + controller.drain.2.length ≤ Binary64.greatestWord) :
    controller.drainInWords? = some controller.drain := by
  have numbered : ∀ worker ∈ controller.pool.activeDescending.reverse,
      worker < controller.pool.size := by
    intro worker member
    obtain ⟨slot, active, rfl⟩ := List.mem_map.1 (List.mem_reverse.1 member)
    exact sound.pool.id_lt_size (List.mem_of_mem_filter (List.mem_reverse.1 active))
  have drained : controller.pool.activeDescending.reverse.foldlM drainWorkerInWords?
      (controller, []) =
        some (controller.pool.activeDescending.reverse.foldl drainWorker (controller, [])) := by
    refine foldlM_eq_some_foldl (motive := fun progress : Controller × List DropRecord =>
      progress.1.pool.size = controller.pool.size) rfl ?_ ?_
    · intro progress size worker _
      rw [pool_drainWorker, WorkerPool.size_release]
      exact size
    · intro progress size worker member
      obtain ⟨slot, found⟩ := WorkerPool.exists_slot? (size ▸ numbered worker member)
      simp only [drainWorkerInWords?, found, Option.bind_eq_bind, Option.bind_some,
        Option.pure_def]
  have kept : (controller.pool.activeDescending.reverse.foldl drainWorker
      (controller, [])).1.ledger.Counts results drops assigned := by
    obtain ⟨_, _, _, same⟩ := controller.drainWorkers_eq
    rw [same]
    exact counts
  have counted := recordDropsInWords?_eq kept controller.drain.2 few
  unfold drain at counted ⊢
  unfold drainInWords?
  dsimp only at counted ⊢
  rw [drained]
  simp only [counted, Option.bind_eq_bind, Option.bind_some, Option.pure_def]

end Controller

namespace Lifetime

variable {config : Configuration} {history : History} {controller : Controller}

/-- The results and the drops of a history are of items that were submitted. -/
theorem length_results_le (lifetime : Lifetime config history controller) :
    history.results.length + history.drops.length ≤
      history.operations.countP (·.isSubmit) := by
  have admitted := lifetime.length_admitted
  have submitted := length_admitted_le history
  omega

/-- In a history that stays brief, one more operation does in words what it does with numbers
of any size. -/
theorem performInWords?_eq (lifetime : Lifetime config history controller)
    (words : config.InWords) (operation : Operation)
    (brief : Brief (history.operations ++ [operation]))
    (totals : (controller.perform operation).1.ledger.TotalsWithin Binary64.greatestWord) :
    controller.performInWords? operation = some (controller.perform operation) := by
  have before : Brief history.operations := brief.left
  have inRange := lifetime.inRange words before
  have sound := lifetime.ledgered.sound
  have counts := lifetime.counts
  have ended := (lifetime.step operation).length_results_le
  rw [History.operations_concat, History.results_concat, History.drops_concat,
    List.length_append, List.length_append] at ended
  have few := ended.trans brief.submits
  cases operation with
  | submit payload tier =>
      have submits := brief.submits
      rw [List.countP_append] at submits
      have number : Word.fit? controller.nextId = some controller.nextId :=
        Word.fit?_eq_some (lifetime.nextId_le.trans submits)
      simp only [Controller.performInWords?, Controller.submitInWords?, number,
        Option.bind_eq_bind, Option.bind_some, Option.pure_def]
      rfl
  | round =>
      have rounds := brief.rounds
      rw [List.countP_append, ← lifetime.round_eq_countP] at rounds
      have records : FewRecords history.results history.drops controller.runRound.2.log :=
        ⟨(Nat.le_add_right _ _).trans few, (Nat.le_add_left _ _).trans few⟩
      have ran := inRange.runRoundInWords?_eq sound counts records rounds totals
      simp only [Controller.performInWords?, ran, Option.bind_eq_bind, Option.bind_some,
        Option.pure_def]
      rfl
  | withdraw work =>
      have taken : controller.withdrawInWords? work = some (controller.withdraw work) := by
        refine Controller.withdrawInWords?_eq counts fun drop outcome => ?_
        have one : (controller.stepOf (.withdraw work)).drops = [drop] := by
          simp only [Controller.stepOf, Controller.perform, Step.drops, outcome]
        rw [one] at few
        exact (Nat.le_add_left _ _).trans few
      simp only [Controller.performInWords?, taken, Option.bind_eq_bind, Option.bind_some,
        Option.pure_def]
      rfl
  | drain =>
      have drained := Controller.drainInWords?_eq sound counts ((Nat.le_add_left _ _).trans few)
      simp only [Controller.performInWords?, drained, Option.bind_eq_bind, Option.bind_some,
        Option.pure_def]
      rfl
  | _ => rfl

/-- An operation that does not give up leaves the sums over workers words. -/
theorem totalsWithin_of_performInWords? (lifetime : Lifetime config history controller)
    (words : config.InWords) {operation : Operation} {next : Controller × Answer}
    (brief : Brief (history.operations ++ [operation]))
    (before : controller.ledger.TotalsWithin Binary64.greatestWord)
    (performed : controller.performInWords? operation = some next) :
    (controller.perform operation).1.ledger.TotalsWithin Binary64.greatestWord := by
  by_cases round : operation = .round
  · subst round
    have rounds := brief.rounds
    rw [List.countP_append, ← lifetime.round_eq_countP] at rounds
    obtain ⟨ran, reported, _⟩ := Option.bind_eq_some_iff.1 performed
    exact (lifetime.inRange words brief.left).totalsWithin_of_runRoundInWords?
      lifetime.ledgered.sound rounds reported
  · rw [controller.ledger_perform operation round, Ledger.recordDrops_eq]
    exact ⟨before.assigned, before.workerFaults, before.thermalPreemptions,
      before.securityReclaims⟩

/-- In a history that stays brief, further operations give up in words just where the sums over
workers are no words any more, and otherwise they do what they do with numbers of any size. -/
theorem afterInWords?_eq_some_iff (lifetime : Lifetime config history controller)
    (words : config.InWords) {operations : List Operation}
    (brief : Brief (history.operations ++ operations))
    (before : controller.ledger.TotalsWithin Binary64.greatestWord) {last : Controller} :
    controller.afterInWords? operations = some last ↔
      last = controller.after operations ∧
        (controller.after operations).ledger.TotalsWithin Binary64.greatestWord := by
  unfold Controller.afterInWords?
  induction operations generalizing history controller with
  | nil =>
      rw [List.foldlM_nil, Option.pure_def, Option.some.injEq]
      exact ⟨fun same => ⟨same.symm, before⟩, fun same => same.1.symm⟩
  | cons operation rest inductionHypothesis =>
      rw [List.append_cons] at brief
      have first := lifetime.performInWords?_eq words operation brief.left
      have within {next : Controller × Answer}
          (done : controller.performInWords? operation = some next) :=
        lifetime.totalsWithin_of_performInWords? words brief.left before done
      rw [← History.operations_concat] at brief
      have later := @inductionHypothesis _ _ (lifetime.step operation) brief
      rw [List.foldlM_cons, Option.bind_eq_bind, Option.bind_eq_some_iff]
      constructor
      · rintro ⟨next, performed, continued⟩
        obtain ⟨answered, done, rfl⟩ := Option.map_eq_some_iff.1 performed
        have totals := within done
        obtain rfl := Option.some.inj ((first totals).symm.trans done)
        exact (later totals).1 continued
      · -- The totals never fall, so the last ones bound those after the first operation.
        rintro ⟨same, totals⟩
        have next := (lifetime.step operation).totalsWithin_of_after totals
        refine ⟨(controller.perform operation).1, ?_, (later next).2 ⟨same, totals⟩⟩
        rw [first next, Option.map_some]

end Lifetime

namespace Configuration

variable {config : Configuration}

/-- Start a controller, for which the capacities are summed, and perform operations. -/
def runInWords? (config : Configuration) (operations : List Operation) : Option Controller := do
  let _ ← Word.fit? config.queues.totalCapacity
  (Controller.start config).afterInWords? operations

/-- A run gives up just if the sums over workers are no words in the end. -/
theorem runInWords?_eq_some_iff (accepted : config.IsAccepted) (words : config.InWords)
    {operations : List Operation} (brief : Brief operations) {last : Controller} :
    config.runInWords? operations = some last ↔
      last = (Controller.start config).after operations ∧
        ((Controller.start config).after operations).ledger.TotalsWithin
          Binary64.greatestWord := by
  simp only [runInWords?, Word.fit?_eq_some words.capacities, Option.bind_eq_bind,
    Option.bind_some]
  exact accepted.lifetime.afterInWords?_eq_some_iff words brief
    ⟨Nat.zero_le _, Nat.zero_le _, Nat.zero_le _, Nat.zero_le _⟩

/-- A run of a controller for an accepted configuration does in words what it does with numbers
of any size, whatever the reports say, as long as the product of rounds and workers is a word.
All counters that later computations start from are in range even without that bound. What
needs it are the four sums of the ledger that count workers over the rounds: each is at most the
product, and a run gives up just if one of them is no word any more. -/
theorem staysInWords (accepted : config.IsAccepted) (words : config.InWords)
    {operations : List Operation} (brief : Brief operations) :
    let controller := (Controller.start config).after operations
    (operations.countP (·.isRound) * config.pool.workers ≤ Binary64.greatestWord →
        config.runInWords? operations = some controller) ∧
      (∀ last, config.runInWords? operations = some last ↔
        last = controller ∧ controller.ledger.TotalsWithin Binary64.greatestWord) ∧
      controller.InRange ∧
      controller.ledger.TotalsWithin
        (operations.countP (·.isRound) * config.pool.workers) := by
  intro controller
  have lifetime := accepted.lifetime.after operations
  have performed : History.operations
      ([] ++ (Controller.start config).stepsOf operations) = operations :=
    History.operations_stepsOf _ _
  have totals := lifetime.totalsWithin
  rw [lifetime.round_eq_countP, performed] at totals
  have runs (last : Controller) : config.runInWords? operations = some last ↔
      last = controller ∧ controller.ledger.TotalsWithin Binary64.greatestWord :=
    runInWords?_eq_some_iff accepted words brief
  exact ⟨fun few => (runs controller).2 ⟨rfl, totals.mono few⟩, runs,
    lifetime.inRange words (performed.symm ▸ brief), totals⟩

/-- Two workers in turn: one finished an item, the other ran past its time, a completion came
from a worker that does not exist, the cursor of the policy has come round, an item was
withdrawn and the rest drained. -/
theorem staysInWords_after_drain :
    let config : Configuration :=
      { pool := { workers := 2, searchSpace := 5, faultMinRounds := 1 }
        adaptation := { windowRounds := 2 } }
    let operations : List Operation :=
      [.setModes ⟨true, false, false⟩, .submit ⟨[1]⟩ .low, .submit ⟨[2]⟩ .high, .round, .round,
        .receive (.completion ⟨0, 2, .exhausted, .ofFloat 50⟩),
        .receive (.completion ⟨7, 9, .exhausted, .ofFloat 50⟩), .round, .submit ⟨[3]⟩ .critical,
        .round, .submit ⟨[4]⟩ .low, .withdraw 4, .drain]
    let controller := (Controller.start config).after operations
    config.IsAccepted ∧ config.InWords ∧ Brief operations ∧
      (controller.policy = .roundRobin 0 ∧ controller.collector.cursor = some 0 ∧
        controller.ledger.workerFaults = 1 ∧ controller.ledger.drops.total = 3) ∧
      config.runInWords? operations = some controller ∧ controller.InRange ∧
      controller.ledger.TotalsWithin 8 := by
  intro config operations controller
  have accepted : config.IsAccepted := by
    unfold IsAccepted
    decide +kernel
  have words : config.InWords := by
    constructor
    case limits => intro tier; cases tier <;> decide +kernel
    all_goals decide +kernel
  have brief : Brief operations := by
    constructor <;> decide +kernel
  obtain ⟨runs, _, inRange, totals⟩ := staysInWords accepted words brief
  refine ⟨accepted, words, brief, ?_, runs ?_, inRange, totals⟩
  · refine ⟨?_, ?_, ?_, ?_⟩ <;> decide +kernel
  · decide +kernel

end Configuration

end PoolArbiter
