import PoolArbiter.Proofs.Round.Pool
import PoolArbiter.Proofs.Selection.Ranking

/-!
# Selection is maximal and in order

From a turn on, `Turn.openings` items are assigned: as many as wait, as there are
eligible workers, and as the cap has room for. They go to the first workers of
`Turn.lineup`, the order of the policy in force. Handing over one item takes one
opening and the first worker of the lineup, and `Turn.Assigns.workers_eq` follows by
induction.

`Turn.Reaches` follows the assignments of a round as it makes them, so that
`Turn.Reaches.accepts` can say that no worker refuses.
-/

namespace PoolArbiter

/-- A policy after it has chosen some workers: a cursor moves past the last of them. -/
def Policy.afterAll (policy : Policy) (pool : WorkerPool) (workers : List WorkerId) : Policy :=
  match workers.getLast? with
  | none => policy
  | some last => policy.afterChoosing pool last

/-- The choices change the policy one by one. -/
theorem Policy.afterAll_cons {policy : Policy} {before after : WorkerPool}
    (size : after.size = before.size) (worker : WorkerId) (rest : List WorkerId) :
    policy.afterAll before (worker :: rest) =
      (policy.afterChoosing before worker).afterAll after rest := by
  unfold afterAll
  rw [List.getLast?_cons]
  cases rest.getLast? with
  | none => rfl
  | some last => cases policy <;> simp [afterChoosing, size]

namespace Turn

/-- The number of items that are assigned from a turn on: the items that wait, the
eligible workers and the room under the cap each bound it. -/
def openings (turn : Turn) : Nat :=
  min turn.controller.queues.totalDepth
    (min turn.controller.pool.eligibleSlots.length
      (turn.controller.governor.state.activeCap - turn.controller.pool.activeCount))

/-- The eligible workers in the order of the policy in force. -/
def lineup (turn : Turn) : List WorkerId :=
  (turn.controller.policy.ranking turn.controller.pool).map (·.id)

/-- The turns that a round comes to while it assigns what is selected. -/
inductive Reaches (start : Turn) : Turn → Prop where
  | start : Reaches start start
  | assign {turn next : Turn} {selection : Policy.Selection} (reaches : Reaches start turn)
      (selected : turn.selection? = some selection)
      (accepted : turn.assign? selection = some next) : Reaches start next

variable {turn final start : Turn} {selection : Policy.Selection}

/-- All eligible workers line up. -/
theorem length_lineup (turn : Turn) :
    turn.lineup.length = turn.controller.pool.eligibleSlots.length := by
  rw [lineup, List.length_map]
  exact (Policy.perm_ranking _ _).length_eq

section Step

/-- The item selected goes to the first worker of the lineup, and the others stay in line. -/
theorem lineup_eq_cons (sound : turn.controller.pool.Sound)
    (selected : turn.selection? = some selection) :
    turn.lineup = selection.worker :: (turn.handOver selection).lineup := by
  obtain ⟨_, chosen, _, policy⟩ := Policy.select?_eq_some selected
  obtain ⟨slot, number, ranked⟩ :=
    Policy.ranking_eq_cons sound (sound_handOver sound selected) (fun _ => rfl) chosen
  rw [lineup, ranked, List.map_cons, number, ← policy]
  rfl

/-- An item that is handed over takes one of the openings. -/
theorem openings_eq_succ (sound : turn.controller.pool.Sound)
    (selected : turn.selection? = some selection) :
    turn.openings = (turn.handOver selection).openings + 1 := by
  have room := (Policy.select?_eq_some selected).1
  have waiting := congrArg Multiset.card (contents_handOver selected)
  have ready := congrArg List.length (lineup_eq_cons sound selected)
  have active := activeCount_handOver sound selected
  have cap : (turn.handOver selection).controller.governor = turn.controller.governor := rfl
  rw [Multiset.card_cons, AdmissionQueues.card_contents, AdmissionQueues.card_contents] at waiting
  rw [List.length_cons, length_lineup, length_lineup] at ready
  rw [openings, openings, waiting, ready, active, cap]
  omega

/-- Where nothing is selected there is no opening. -/
theorem openings_eq_zero (exhausted : turn.selection? = none) : turn.openings = 0 := by
  rcases Policy.select?_eq_none_iff.1 exhausted with full | empty | busy
  · simp [openings, Nat.sub_eq_zero_of_le full]
  · simp [openings, AdmissionQueues.totalDepth_eq_zero_iff.2 empty]
  · simp [openings, busy]

end Step

namespace Assigns

/-- The openings go to the first workers of the lineup. -/
theorem workers_eq (assigns : Assigns turn final) (sound : turn.controller.pool.Sound) :
    final.log.assignments.map (·.worker) =
      turn.log.assignments.map (·.worker) ++ turn.lineup.take turn.openings := by
  induction assigns with
  | done exhausted => simp [openings_eq_zero exhausted]
  | @handOver turn selection final selected rest inductionHypothesis =>
      have listed : (turn.handOver selection).log.assignments.map (·.worker) =
          turn.log.assignments.map (·.worker) ++ [selection.worker] := by
        simp [Turn.handOver, assignmentOf]
      rw [inductionHypothesis (sound_handOver sound selected), listed,
        lineup_eq_cons sound selected, openings_eq_succ sound selected, List.take_succ_cons,
        List.append_assoc, List.singleton_append]

/-- The policy moves past the workers that are assigned. -/
theorem policy_eq (assigns : Assigns turn final) (sound : turn.controller.pool.Sound) :
    final.controller.policy =
      turn.controller.policy.afterAll turn.controller.pool (turn.lineup.take turn.openings) := by
  induction assigns with
  | done exhausted => simp [openings_eq_zero exhausted, Policy.afterAll]
  | @handOver turn selection final selected rest inductionHypothesis =>
      have policy : (turn.handOver selection).controller.policy =
          turn.controller.policy.afterChoosing turn.controller.pool selection.worker :=
        (Policy.select?_eq_some selected).2.2.2
      have size : (turn.handOver selection).controller.pool.size = turn.controller.pool.size :=
        WorkerPool.size_update _ _ _
      rw [inductionHypothesis (sound_handOver sound selected), lineup_eq_cons sound selected,
        openings_eq_succ sound selected, List.take_succ_cons, Policy.afterAll_cons size, policy]

/-- The round comes to the turn at which nothing more is selected. -/
theorem reaches (assigns : Assigns turn final) (sound : turn.controller.pool.Sound)
    (reaches : start.Reaches turn) : start.Reaches final := by
  induction assigns with
  | done => exact reaches
  | handOver selected _ inductionHypothesis =>
      exact inductionHypothesis (sound_handOver sound selected)
        (reaches.assign selected (assign?_of_selection? sound selected))

end Assigns

namespace Reaches

/-- Every turn on the way to the last assignment is sound. -/
theorem sound (reaches : start.Reaches turn) (sound : start.controller.pool.Sound) :
    turn.controller.pool.Sound := by
  induction reaches with
  | start => exact sound
  | assign _ selected accepted inductionHypothesis =>
      rw [assign?_of_selection? inductionHypothesis selected] at accepted
      exact Option.some.inj accepted ▸ sound_handOver inductionHypothesis selected

/-- Whatever has been assigned so far, the worker selected next accepts. -/
theorem accepts (reaches : start.Reaches turn) (sound : start.controller.pool.Sound)
    (selected : turn.selection? = some selection) : (turn.assign? selection).isSome = true := by
  rw [assign?_of_selection? (reaches.sound sound) selected]
  rfl

end Reaches

end Turn

namespace Controller

/-- What a round makes of the items that wait and the workers that are eligible when it
starts to select. -/
structure AssignsInOrder (controller : Controller) : Prop where
  /-- Every opening is filled. -/
  count : controller.runRound.2.log.assignments.length = controller.selecting.openings
  /-- The first workers in the order of the policy are assigned, in this order. -/
  workers : controller.runRound.2.log.assignments.map (·.worker) =
    controller.selecting.lineup.take controller.selecting.openings
  /-- The policy stays, except that a cursor moves past the last worker assigned. -/
  policy : controller.runRound.1.policy =
    controller.selecting.controller.policy.afterAll controller.selecting.controller.pool
      (controller.runRound.2.log.assignments.map (·.worker))
  /-- No worker that is selected refuses. -/
  accepted : ∀ turn selection, controller.selecting.Reaches turn →
    turn.selection? = some selection → (turn.assign? selection).isSome = true
  /-- Assigning comes to an end where nothing more is selected. -/
  ends : controller.selecting.Reaches controller.selecting.assignAll ∧
    controller.selecting.assignAll.selection? = none
  /-- No item waits, or no worker is eligible, or the workers at work have reached the cap. -/
  exhausted : controller.runRound.1.queues.totalDepth = 0 ∨
    controller.runRound.1.pool.eligibleSlots = [] ∨
    controller.runRound.1.governor.state.activeCap ≤ controller.runRound.1.pool.activeCount

variable {controller : Controller}

/-- A round assigns to the first workers of the lineup. -/
theorem Sound.workers_runRound (sound : controller.Sound) :
    controller.runRound.2.log.assignments.map (·.worker) =
      controller.selecting.lineup.take controller.selecting.openings := by
  have assigned := (Turn.assignAll_assigns sound.selecting.sound).workers_eq sound.selecting.sound
  rw [assignments_selecting, List.map_nil, List.nil_append] at assigned
  rw [runRound_eq, Turn.log_report, assigned]

/-- A round leaves the policy as its assignments do. -/
theorem Sound.policy_runRound (sound : controller.Sound) :
    controller.runRound.1.policy =
      controller.selecting.controller.policy.afterAll controller.selecting.controller.pool
        (controller.runRound.2.log.assignments.map (·.worker)) := by
  have assigned := (Turn.assignAll_assigns sound.selecting.sound).policy_eq sound.selecting.sound
  rw [sound.workers_runRound, runRound_eq, Turn.policy_report, assigned]

end Controller

namespace Lifetime

variable {config : Configuration} {history : History} {controller : Controller}

/-- Every round fills as many openings as items, eligible workers and the cap allow, with the
first workers in the order of the policy. No worker refuses, and selection ends only where
nothing more can be selected. -/
theorem assignsInOrder (lifetime : Lifetime config history controller) :
    controller.AssignsInOrder := by
  have sound := lifetime.ledgered.sound
  have assigns := Turn.assignAll_assigns sound.selecting.sound
  constructor
  case count =>
    have fewer : controller.selecting.openings ≤ controller.selecting.lineup.length := by
      rw [Turn.length_lineup]
      exact (Nat.min_le_right _ _).trans (Nat.min_le_left _ _)
    rw [← List.length_map (·.worker), sound.workers_runRound, List.length_take_of_le fewer]
  case workers => exact sound.workers_runRound
  case policy => exact sound.policy_runRound
  case accepted => exact fun _ _ reaches selected => reaches.accepts sound.selecting.sound selected
  case ends => exact ⟨assigns.reaches sound.selecting.sound .start, assigns.exhausted⟩
  case exhausted =>
    rcases sound.exhausted_runRound with full | empty | busy
    · exact .inr (.inr full)
    · exact .inl (AdmissionQueues.totalDepth_eq_zero_iff.2 empty)
    · exact .inr (.inl busy)

/-- Four workers of different loads, the last of them at work: of three items that wait for the
others, all are handed out, the first of them to the worker of least load. -/
theorem assignsInOrder_by_load :
    let config : Configuration := { pool := { workers := 4 } }
    let start := Controller.start config
    let operations : List Operation :=
      [.submit ⟨[1]⟩ .low, .submit ⟨[2]⟩ .low, .submit ⟨[3]⟩ .low, .submit ⟨[4]⟩ .low, .round,
        .receive (.completion ⟨0, 1, .exhausted, .ofFloat 80⟩),
        .receive (.completion ⟨1, 2, .exhausted, .ofFloat 20⟩),
        .receive (.completion ⟨2, 3, .exhausted, .ofFloat 50⟩),
        .submit ⟨[5]⟩ .low, .submit ⟨[6]⟩ .high, .submit ⟨[7]⟩ .low]
    let history := start.stepsOf operations
    let controller := start.after operations
    Lifetime config history controller ∧
      controller.selecting.controller.policy = .performanceAware 256 1 ∧
      controller.selecting.lineup = [1, 2, 0] ∧
      controller.selecting.openings = 3 ∧
      controller.runRound.2.log.assignments.map (fun assignment =>
        (assignment.worker, assignment.work)) = [(1, 6), (2, 5), (0, 7)] ∧
      controller.AssignsInOrder := by
  intro config start operations history controller
  have created : Controller.create { pool := { workers := 4 } } = .ok start := rfl
  have lifetime : Lifetime config history controller :=
    (Lifetime.start created).after operations
  refine ⟨lifetime, ?_, ?_, ?_, ?_, lifetime.assignsInOrder⟩ <;> decide +kernel

end Lifetime

end PoolArbiter
