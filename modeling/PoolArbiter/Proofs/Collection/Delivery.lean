import Mathlib.Data.List.Sort
import PoolArbiter.Proofs.Collection.Memory

/-!
# The order of delivery

Reports of different workers and on different items reach the feed in any order, and
the verdicts of a snapshot are settled in any order too. `Report.Agree` says of two
feeds what a round can tell apart: the completions of each worker, the last verdict on
each item, the health reports and the last sensor reading. Feeds that agree lead to the
same round, and so does every order of the verdicts: `Controller.runRound_eq_of_agree`
and `Controller.runRoundInOrder_eq`.
-/

namespace PoolArbiter

namespace KeyMap

variable {κ β : Type} [DecidableEq κ] {first second : List (κ × β)} {key : κ} {value : β}

/-- If each key is written once, the last value under a key is the one that is written. -/
theorem lastValue?_eq_some_iff
    (distinct : first.Pairwise fun earlier later => earlier.1 ≠ later.1) :
    lastValue? first key = some value ↔ (key, value) ∈ first := by
  induction first with
  | nil => simp [lastValue?]
  | cons write rest inductionHypothesis =>
      obtain ⟨headDistinct, restDistinct⟩ := List.pairwise_cons.1 distinct
      rw [lastValue?_cons, List.mem_cons]
      by_cases same : write.1 = key
      · subst same
        have absent : ∀ later ∈ rest, later.1 ≠ write.1 := fun later member =>
          (headDistinct later member).symm
        rw [lastValue?_eq_none absent, if_pos rfl, Option.none_or, Option.some.injEq]
        constructor
        · rintro rfl
          exact .inl rfl
        · rintro (equal | later)
          · exact (congrArg Prod.snd equal).symm
          · exact absurd rfl (absent (write.1, value) later)
      · rw [if_neg same, Option.or_none, inductionHypothesis restDistinct]
        refine ⟨.inr, fun member => member.resolve_left ?_⟩
        rintro rfl
        exact same rfl

/-- The order in which different keys are written does not matter. -/
theorem lastValue?_perm (reordered : first.Perm second)
    (distinct : second.Pairwise fun earlier later => earlier.1 ≠ later.1) (key : κ) :
    lastValue? first key = lastValue? second key := by
  have distinctFirst : first.Pairwise fun earlier later => earlier.1 ≠ later.1 :=
    (reordered.pairwise_iff fun different => different.symm).2 distinct
  ext value
  rw [lastValue?_eq_some_iff distinctFirst, lastValue?_eq_some_iff distinct, reordered.mem_iff]

section Extensionality

variable [LT κ] [LE κ] [Std.LawfulOrderLT κ]

/-- The entries of a map are what it holds under their keys. -/
theorem mem_entries_iff {map : KeyMap κ β} {entry : κ × β} :
    entry ∈ map.entries ↔ map.find? entry.1 = some entry.2 := by
  rw [← lastValue?_entries, lastValue?_eq_some_iff map.distinct]

/-- Maps with the same values are equal. -/
theorem ext_find? {first second : KeyMap κ β}
    (same : ∀ key, first.find? key = second.find? key) : first = second := by
  have asymmetric : Std.Asymm fun earlier later : κ × β => earlier.1 < later.1 :=
    ⟨fun _ _ before => Std.not_gt_of_lt before⟩
  have entries : first.entries = second.entries :=
    first.ascending.eq_of_mem_iff second.ascending fun entry => by
      rw [mem_entries_iff, mem_entries_iff, same]
  cases first
  cases second
  congr

end Extensionality

end KeyMap

namespace Collector

variable {inFlight : List WorkId} {first second : List (WorkId × Bool)}

section Settling

/-- The order in which the verdicts on different items are settled does not matter for the
collector and for the number of failures that are charged late. -/
theorem foldl_recordVerdict_perm (inFlight : List WorkId) (reordered : first.Perm second)
    (distinct : second.Pairwise fun earlier later => earlier.1 ≠ later.1)
    (state : Collector × List WorkerId) :
    (first.foldl (recordVerdict inFlight) state).1 =
        (second.foldl (recordVerdict inFlight) state).1 ∧
      (first.foldl (recordVerdict inFlight) state).2.length =
        (second.foldl (recordVerdict inFlight) state).2.length := by
  constructor
  · -- Apart from the verdicts that are kept and the hits that are taken nothing changes.
    rw [foldl_recordVerdict_eq first, foldl_recordVerdict_eq second]
    have verdicts : (first.foldl (recordVerdict inFlight) state).1.verdicts =
        (second.foldl (recordVerdict inFlight) state).1.verdicts := by
      refine KeyMap.ext_find? fun work => ?_
      rw [find?_foldl_recordVerdict, find?_foldl_recordVerdict,
        KeyMap.lastValue?_perm reordered distinct]
    have hits : state.1.recentHits.retain (spares inFlight first) =
        state.1.recentHits.retain (spares inFlight second) :=
      Recent.retain_congr fun hit _ => by
        rw [Bool.eq_iff_iff, spares_iff, spares_iff, reordered.mem_iff]
    rw [verdicts, hits]
  · have distinctFirst : first.Pairwise fun earlier later => earlier.1 ≠ later.1 :=
      (reordered.pairwise_iff fun different => different.symm).2 distinct
    rw [length_foldl_recordVerdict distinctFirst, length_foldl_recordVerdict distinct,
      reordered.countP_eq]

end Settling

section Polling

variable {round : Round}

/-- What a round uses of a poll: all but the number of completions that did not count. -/
def Progress.counted (progress : Progress) : Progress :=
  { progress with yield := { progress.yield with stale := 0 } }

/-- Accepting a completion and forgetting the order of the counts may be exchanged. -/
theorem Progress.counted_accept (progress : Progress) (round : Round) (completion : Completion) :
    (progress.accept round completion).counted =
      (progress.counted.accept round completion).counted := by
  have same : heldItem? progress.counted.pool completion = heldItem? progress.pool completion :=
    rfl
  unfold accept
  rw [same]
  split <;> rfl

/-- The completions that did not count have no influence on those that do. -/
theorem Progress.counted_foldl (completions : List Completion) {one other : Progress}
    (same : one.counted = other.counted) :
    (completions.foldl (fun progress completion => progress.accept round completion)
        one).counted =
      (completions.foldl (fun progress completion => progress.accept round completion)
        other).counted := by
  induction completions generalizing one other with
  | nil => exact same
  | cons completion rest inductionHypothesis =>
      apply inductionHypothesis
      rw [counted_accept one, counted_accept other, same]

/-- A poll that counts serves the completions in the order of their workers. -/
theorem counted_poll (collector : Collector) (completions : List Completion) (pool : WorkerPool)
    (round : Round) :
    (collector.poll completions pool round).counted =
      if pool.slots.isEmpty then ⟨collector, pool, {}⟩
      else ((inServiceOrder collector.cursor pool.size completions).foldl
        (fun progress completion => Progress.accept progress round completion)
        ⟨collector, pool, {}⟩).counted := by
  unfold poll
  split
  · rfl
  · exact Progress.counted_foldl _ rfl

/-- How the completions of different workers interleave does not matter for a poll. -/
theorem counted_poll_congr {first second : List Completion}
    (same : ∀ worker, (first.filter fun completion => completion.worker == worker) =
      second.filter fun completion => completion.worker == worker)
    (collector : Collector) (pool : WorkerPool) (round : Round) :
    (collector.poll first pool round).counted = (collector.poll second pool round).counted := by
  rw [counted_poll, counted_poll]
  unfold inServiceOrder
  simp only [same]

end Polling

end Collector

namespace Turn

/-- Settle verdicts in a given order. -/
def settleInOrder (turn : Turn) (order : List (WorkId × Bool)) : Turn :=
  let (collector, late) :=
    order.foldl (Collector.recordVerdict turn.controller.pool.worksInFlight)
      (turn.controller.collector, [])
  { turn with controller := { turn.controller with collector := collector } }.countViolations
    late

/-- Verdicts are settled in the order of their entries. -/
theorem settleVerdicts_eq (turn : Turn) (snapshot : Snapshot) :
    turn.settleVerdicts snapshot = turn.settleInOrder snapshot.verdicts.entries :=
  rfl

/-- The verdicts on different items may be settled in any order. -/
theorem settleInOrder_eq (turn : Turn) {snapshot : Snapshot} {order : List (WorkId × Bool)}
    (reordered : order.Perm snapshot.verdicts.entries) :
    turn.settleInOrder order = turn.settleVerdicts snapshot := by
  obtain ⟨collector, late⟩ := Collector.foldl_recordVerdict_perm
    turn.controller.pool.worksInFlight reordered snapshot.verdicts.distinct
    (turn.controller.collector, [])
  rw [settleVerdicts_eq]
  unfold settleInOrder countViolations
  dsimp only
  rw [collector, late]

/-- Take over a poll and publish its results. -/
def absorb (turn : Turn) (polled : Collector.Progress) : Turn :=
  let collected :=
    { turn with
      controller :=
        { turn.controller with collector := polled.collector, pool := polled.pool } }
  polled.yield.results.foldl publish (collected.countViolations polled.yield.untrusted)

/-- Collecting takes from a poll only what is counted. -/
theorem collect_eq (turn : Turn) (snapshot : Snapshot) :
    turn.collect snapshot =
      turn.absorb (turn.controller.collector.poll snapshot.completions turn.controller.pool
        turn.controller.round).counted :=
  rfl

/-- The rest of a round once its verdicts are settled. -/
def finish (turn : Turn) (snapshot : Snapshot) : Controller × RoundReport :=
  ((((turn.collect snapshot).detectFaults.applyHealth snapshot).enforceCap
    snapshot).adapt.assignAll.settleQuality.report)

end Turn

namespace Report

/-- The completion that a report brings. -/
def completion? : Report → Option Completion
  | .completion brought => some brought
  | _ => none

/-- The health report that a report brings. -/
def health? : Report → Option HealthReport
  | .health brought => some brought
  | _ => none

/-- The sensor reading that a report brings. -/
def sensor? : Report → Option SensorReading
  | .sensor brought => some brought
  | _ => none

/-- Two feeds agree on the completions of each worker, on the last verdict on each item,
on the health reports and on the last sensor reading. -/
structure Agree (first second : List Report) : Prop where
  completions : ∀ worker,
    ((first.filterMap completion?).filter fun completion => completion.worker == worker) =
      (second.filterMap completion?).filter fun completion => completion.worker == worker
  verdicts : ∀ work, KeyMap.lastValue? (first.filterMap verdict?) work =
    KeyMap.lastValue? (second.filterMap verdict?) work
  health : first.filterMap health? = second.filterMap health?
  sensor : (first.filterMap sensor?).getLast? = (second.filterMap sensor?).getLast?

/-- Neither of two reports can tell whether it comes before the other: they are of
different kinds, of different workers or on different items. -/
def Independent : Report → Report → Prop
  | .completion one, .completion other => one.worker ≠ other.worker
  | .verdict one _, .verdict other _ => one ≠ other
  | .health _, .health _ => False
  | .sensor _, .sensor _ => False
  | _, _ => True

namespace Agree

variable {first second : List Report} {one other : Report}

/-- What comes before and after two feeds that agree does not matter. -/
theorem append (agree : Agree first second) (before after : List Report) :
    Agree (before ++ first ++ after) (before ++ second ++ after) where
  completions worker := by
    simp only [List.filterMap_append, List.filter_append, agree.completions worker]
  verdicts work := by
    simp only [List.filterMap_append, KeyMap.lastValue?_append, agree.verdicts work]
  health := by simp only [List.filterMap_append, agree.health]
  sensor := by simp only [List.filterMap_append, List.getLast?_append, agree.sensor]

/-- Independent reports may be delivered in either order. -/
theorem swap (independent : one.Independent other) : Agree [one, other] [other, one] := by
  cases one <;> cases other <;>
    try exact ⟨fun _ => rfl, fun _ => rfl, rfl, rfl⟩
  case completion.completion one other =>
    refine ⟨fun worker => ?_, fun _ => rfl, rfl, rfl⟩
    replace independent : one.worker ≠ other.worker := independent
    by_cases first : one.worker = worker
    · have second : other.worker ≠ worker := fun same => independent (first.trans same.symm)
      simp [completion?, first, second]
    · simp [completion?, List.filter_cons, first]
  case verdict.verdict one _ other _ =>
    refine ⟨fun _ => rfl, fun work => ?_, rfl, rfl⟩
    replace independent : one ≠ other := independent
    by_cases first : one = work
    · have second : other ≠ work := fun same => independent (first.trans same.symm)
      simp [verdict?, KeyMap.lastValue?, first, second]
    · simp [verdict?, KeyMap.lastValue?, List.filterMap_cons, first]
  all_goals exact independent.elim

/-- Feeds that agree bring the completions of each worker in one order. -/
theorem completions_eq (agree : Agree first second) (worker : WorkerId) :
    ((Snapshot.ofReports first).completions.filter fun completion =>
        completion.worker == worker) =
      (Snapshot.ofReports second).completions.filter fun completion =>
        completion.worker == worker :=
  agree.completions worker

/-- Feeds that agree bring the same health reports. -/
theorem health_eq (agree : Agree first second) :
    (Snapshot.ofReports first).health = (Snapshot.ofReports second).health :=
  agree.health

/-- Feeds that agree bring the same reading. -/
theorem sensor_eq (agree : Agree first second) :
    (Snapshot.ofReports first).sensor = (Snapshot.ofReports second).sensor :=
  agree.sensor

/-- Feeds that agree bring the same verdicts. -/
theorem verdicts_eq (agree : Agree first second) :
    (Snapshot.ofReports first).verdicts = (Snapshot.ofReports second).verdicts :=
  KeyMap.ext_find? fun work => by
    rw [Snapshot.find?_verdicts_ofReports, Snapshot.find?_verdicts_ofReports, agree.verdicts]

end Agree

end Report

namespace Controller

variable {first second : List Report}

/-- A round that settles the verdicts of its snapshot in a given order. -/
def runRoundInOrder (controller : Controller) (order : List (WorkId × Bool)) :
    Controller × RoundReport :=
  (controller.beginRound.settleInOrder order).finish (Snapshot.ofReports controller.feed)

/-- A round settles the verdicts and goes on with the rest of its snapshot. -/
theorem runRound_eq_finish (controller : Controller) :
    controller.runRound =
      (controller.beginRound.settleVerdicts (Snapshot.ofReports controller.feed)).finish
        (Snapshot.ofReports controller.feed) :=
  rfl

/-- A round may settle its verdicts in any order. -/
theorem runRoundInOrder_eq (controller : Controller) {order : List (WorkId × Bool)}
    (reordered : order.Perm (Snapshot.ofReports controller.feed).verdicts.entries) :
    controller.runRoundInOrder order = controller.runRound := by
  rw [runRoundInOrder, Turn.settleInOrder_eq _ reordered, runRound_eq_finish]

/-- Feeds that agree lead to the same round. -/
theorem runRound_eq_of_agree (controller : Controller) (agree : Report.Agree first second) :
    { controller with feed := first }.runRound = { controller with feed := second }.runRound := by
  have began : { controller with feed := first }.beginRound =
      { controller with feed := second }.beginRound := rfl
  have settled : ∀ turn : Turn, turn.settleVerdicts (Snapshot.ofReports first) =
      turn.settleVerdicts (Snapshot.ofReports second) := fun turn => by
    unfold Turn.settleVerdicts
    rw [agree.verdicts_eq]
  have finished : ∀ turn : Turn, turn.finish (Snapshot.ofReports first) =
      turn.finish (Snapshot.ofReports second) := fun turn => by
    unfold Turn.finish Turn.applyHealth Turn.enforceCap
    rw [Turn.collect_eq, Turn.collect_eq, Collector.counted_poll_congr agree.completions_eq,
      agree.health_eq, agree.sensor_eq]
  rw [runRound_eq_finish, runRound_eq_finish, began, settled, finished]

/-- A round does not depend on how independent reports interleave. -/
theorem runRound_swap (controller : Controller) {one other : Report}
    (independent : one.Independent other) (before after : List Report) :
    { controller with feed := before ++ [one, other] ++ after }.runRound =
      { controller with feed := before ++ [other, one] ++ after }.runRound :=
  controller.runRound_eq_of_agree ((Report.Agree.swap independent).append before after)

/-- Of two feeds that agree the next round makes the same report and the same state, and
so it does of every order in which their verdicts are settled. -/
theorem ignoresDelivery (controller : Controller) (agree : Report.Agree first second)
    {firstOrder secondOrder : List (WorkId × Bool)}
    (firstOrdered : firstOrder.Perm (Snapshot.ofReports first).verdicts.entries)
    (secondOrdered : secondOrder.Perm (Snapshot.ofReports second).verdicts.entries) :
    { controller with feed := first }.runRoundInOrder firstOrder =
        { controller with feed := second }.runRoundInOrder secondOrder ∧
      { controller with feed := first }.runRoundInOrder firstOrder =
        { controller with feed := first }.runRound := by
  have one := { controller with feed := first }.runRoundInOrder_eq firstOrdered
  have other := { controller with feed := second }.runRoundInOrder_eq secondOrdered
  exact ⟨by rw [one, other, controller.runRound_eq_of_agree agree], one⟩

/-- Two hits are published and two more items are at work. The reports on them arrive in two
orders, one of them with a verdict that a later one replaces, and their verdicts are
settled in two orders: both times the two late failures and the rejected hit count. -/
theorem ignoresDelivery_of_two_hits :
    let start := Controller.start { pool := { workers := 2 } }
    let operations : List Operation :=
      [.submit ⟨[1]⟩ .low, .submit ⟨[2]⟩ .low, .round,
        .receive (.completion ⟨0, 1, .found [7], .ofFloat 0⟩),
        .receive (.completion ⟨1, 2, .found [8], .ofFloat 0⟩),
        .submit ⟨[3]⟩ .low, .submit ⟨[4]⟩ .low, .round]
    let controller := start.after operations
    let finished : Report := .completion ⟨0, 3, .found [9], .ofFloat 0⟩
    let exhausted : Report := .completion ⟨1, 4, .exhausted, .ofFloat 0⟩
    let first : List Report :=
      [finished, .verdict 1 false, .verdict 3 true, .verdict 2 false, .verdict 3 false, exhausted]
    let second : List Report :=
      [.verdict 3 false, exhausted, .verdict 2 false, .verdict 1 false, finished]
    let firstOrder := [(1, false), (2, false), (3, false)]
    let secondOrder := [(3, false), (1, false), (2, false)]
    Report.Agree first second ∧
      firstOrder.Perm (Snapshot.ofReports first).verdicts.entries ∧
      secondOrder.Perm (Snapshot.ofReports second).verdicts.entries ∧
      ({ controller with feed := first }.runRoundInOrder firstOrder).1.gate.violations = 3 ∧
      ({ controller with feed := first }.runRoundInOrder firstOrder =
          { controller with feed := second }.runRoundInOrder secondOrder ∧
        { controller with feed := first }.runRoundInOrder firstOrder =
          { controller with feed := first }.runRound) := by
  intro start operations controller finished exhausted first second firstOrder secondOrder
  have verdicts : (Snapshot.ofReports first).verdicts = (Snapshot.ofReports second).verdicts := rfl
  have agree : Report.Agree first second := by
    refine ⟨fun worker => ?_, fun work => ?_, rfl, rfl⟩
    · rcases worker with _ | _ | worker <;> rfl
    · rw [← Snapshot.find?_verdicts_ofReports, verdicts, Snapshot.find?_verdicts_ofReports]
  have firstOrdered : firstOrder.Perm (Snapshot.ofReports first).verdicts.entries := by
    decide +kernel
  have secondOrdered : secondOrder.Perm (Snapshot.ofReports second).verdicts.entries := by
    decide +kernel
  refine ⟨agree, firstOrdered, secondOrdered, by decide +kernel, ?_⟩
  exact controller.ignoresDelivery agree firstOrdered secondOrdered

end Controller

end PoolArbiter
