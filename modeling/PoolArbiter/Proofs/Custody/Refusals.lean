import PoolArbiter.Proofs.Admission.Refusals
import PoolArbiter.Proofs.Custody.Headroom
import PoolArbiter.Proofs.Round.Queues

/-!
# Refused operations leave no trace

A submission is refused for the lockdown first, for its payload second and for a full tier
third, and a withdrawal is refused if the number is not queued. `LeavesNoTrace` says when each
of them is refused and that the controller then stays as it is, but for the number that a
refused submission may use up. The limit of the payloads never changes, so every item that
waits or is at work has a valid payload.
-/

namespace PoolArbiter

section Limit

/-- A round leaves the limit of the payloads alone. -/
theorem AdmissionQueues.isKept_payloadLimit (limit : Nat) :
    IsKept fun queues => queues.payloadLimit = limit where
  requeue? same accepted := by
    rw [requeue?_eq_some accepted]
    exact same
  popFrom? same popped := by
    obtain ⟨_, _, rfl⟩ := popFrom?_eq_some_iff.1 popped
    exact same
  withGuard _ same := same

/-- Between rounds no operation changes the payload limit. -/
theorem Controller.payloadLimit_perform (controller : Controller) (operation : Operation)
    (between : operation ≠ .round) :
    (controller.perform operation).1.queues.payloadLimit = controller.queues.payloadLimit := by
  cases operation with
  | round => exact absurd rfl between
  | submit payload tier =>
      unfold perform submit
      dsimp only
      split
      · rfl
      · split
        next accepted => exact AdmissionQueues.payloadLimit_enqueue accepted
        next => rfl
  | withdraw work =>
      unfold perform withdraw
      dsimp only
      split
      next => rfl
      next withdrawn => exact AdmissionQueues.payloadLimit_withdraw? withdrawn
  | drain =>
      obtain ⟨_, _, _, same⟩ := controller.drainWorkers_eq
      exact congrArg (·.queues.payloadLimit) same
  | _ => rfl

/-- Throughout a lifetime the payload limit is the configured one. -/
theorem Lifetime.payloadLimit {config : Configuration} {history : History}
    {controller : Controller} (lifetime : Lifetime config history controller) :
    controller.queues.payloadLimit = config.pool.maxPayloadBytes := by
  refine lifetime.invariant
    (motive := fun _ controller => controller.queues.payloadLimit = config.pool.maxPayloadBytes)
    rfl ?_ ?_
  · intro _ _ prior kept
    exact prior.ledgered.sound.queues_runRound (AdmissionQueues.isKept_payloadLimit _) kept
  · intro _ before operation between _ kept
    rw [before.payloadLimit_perform operation between, kept]

end Limit

section Answers

variable {controller : Controller} {payload : Payload} {tier : Tier} {work : WorkId}

namespace Controller

/-- The ways in which a submission can go, by the first test that it fails. -/
inductive Submission (controller : Controller) (payload : Payload) (tier : Tier) :
    Controller × Except Refusal WorkId → Prop where
  | locked (locked : controller.gate.lockdown = true) :
      Submission controller payload tier (controller, .error .lockdown)
  | invalid (unlocked : controller.gate.lockdown = false)
      (invalid : ¬ payload.IsValid controller.queues.payloadLimit) (fault : ItemFault) :
      Submission controller payload tier
        ({ controller with nextId := controller.nextId + 1 }, .error (.invalidItem fault))
  | full (unlocked : controller.gate.lockdown = false)
      (valid : payload.IsValid controller.queues.payloadLimit)
      (full : controller.queues.capacity tier ≤ controller.queues.depth tier) :
      Submission controller payload tier
        ({ controller with nextId := controller.nextId + 1 }, .error (.queueFull tier))
  | accepted (unlocked : controller.gate.lockdown = false)
      (valid : payload.IsValid controller.queues.payloadLimit)
      (room : ¬ controller.queues.capacity tier ≤ controller.queues.depth tier) :
      Submission controller payload tier
        ({ controller with
            nextId := controller.nextId + 1
            queues := controller.queues.withItems tier
              (controller.queues.items tier ++
                [⟨controller.nextId, tier, payload, controller.round⟩]) },
          .ok controller.nextId)

/-- Every submission ends in one of the four ways. -/
theorem submission (controller : Controller) (payload : Payload) (tier : Tier) :
    controller.Submission payload tier (controller.submit payload tier) := by
  unfold submit
  dsimp only
  split
  next locked => exact .locked locked
  next unlocked =>
    rw [Bool.not_eq_true] at unlocked
    by_cases valid : payload.IsValid controller.queues.payloadLimit
    · rw [AdmissionQueues.enqueue_of_isValid
        ⟨controller.nextId, tier, payload, controller.round⟩ valid]
      by_cases full : controller.queues.capacity tier ≤ controller.queues.depth tier
      · dsimp only
        rw [if_pos full]
        exact .full unlocked valid full
      · dsimp only
        rw [if_neg full]
        exact .accepted unlocked valid full
    · obtain ⟨fault, refused⟩ := AdmissionQueues.enqueue_of_not_isValid
        ⟨controller.nextId, tier, payload, controller.round⟩ valid
      rw [refused]
      exact .invalid unlocked valid fault

namespace Submission

variable {outcome : Controller × Except Refusal WorkId}

/-- A submission is refused for the lockdown exactly during a lockdown. -/
theorem lockdown_iff (submission : controller.Submission payload tier outcome) :
    outcome.2 = .error .lockdown ↔ controller.gate.lockdown = true := by
  cases submission <;> simp [*]

/-- Outside a lockdown a submission is refused as invalid exactly if its payload is. -/
theorem invalidItem_iff (submission : controller.Submission payload tier outcome) :
    (∃ fault, outcome.2 = .error (.invalidItem fault)) ↔
      controller.gate.lockdown = false ∧ ¬ payload.IsValid controller.queues.payloadLimit := by
  cases submission <;> simp [*]

/-- A valid payload is refused exactly if the queue of its tier is full. -/
theorem queueFull_iff (submission : controller.Submission payload tier outcome) (named : Tier) :
    outcome.2 = .error (.queueFull named) ↔
      named = tier ∧ controller.gate.lockdown = false ∧
        payload.IsValid controller.queues.payloadLimit ∧
          controller.queues.capacity tier ≤ controller.queues.depth tier := by
  cases submission <;> simp [*, eq_comm]

/-- A valid payload that finds room is queued under the next number. -/
theorem eq_of_room (submission : controller.Submission payload tier outcome)
    (unlocked : controller.gate.lockdown = false)
    (valid : payload.IsValid controller.queues.payloadLimit)
    (room : controller.queues.depth tier < controller.queues.capacity tier) :
    outcome =
      ({ controller with
          nextId := controller.nextId + 1
          queues := controller.queues.withItems tier
            (controller.queues.items tier ++
              [⟨controller.nextId, tier, payload, controller.round⟩]) },
        .ok controller.nextId) := by
  cases submission with
  | locked locked => exact absurd locked (Bool.not_eq_true _ ▸ unlocked)
  | invalid _ invalid => exact absurd valid invalid
  | full _ _ full => exact absurd room (Nat.not_lt_of_le full)
  | accepted => rfl

/-- A refused submission changes at most the next number. -/
theorem unchanged (submission : controller.Submission payload tier outcome) {refusal : Refusal}
    (refused : outcome.2 = .error refusal) :
    outcome.1 = { controller with nextId := outcome.1.nextId } := by
  cases submission with
  | accepted => cases refused
  | _ => rfl

/-- Only valid payloads are accepted. -/
theorem isValid (submission : controller.Submission payload tier outcome) {id : WorkId}
    (accepted : outcome.2 = .ok id) : payload.IsValid controller.queues.payloadLimit := by
  cases submission with
  | accepted _ valid _ => exact valid
  | _ => cases accepted

end Submission

/-- Submissions of one valid payload fill the tier as far as its capacity goes, and they touch
nothing but the tier and the next number. -/
theorem after_submits (unlocked : controller.gate.lockdown = false)
    (valid : payload.IsValid controller.queues.payloadLimit) (tier : Tier) (count : Nat) :
    ∃ number items,
      controller.after (List.replicate count (.submit payload tier)) =
        { controller with
          nextId := number
          queues := controller.queues.withItems tier items } ∧
      min (controller.queues.capacity tier) (controller.queues.depth tier + count) ≤
        items.length := by
  induction count generalizing controller with
  | zero =>
      refine ⟨controller.nextId, controller.queues.items tier, ?_, Nat.min_le_right _ _⟩
      rw [AdmissionQueues.withItems_items]
      rfl
  | succ count inductionHypothesis =>
      rw [List.replicate_succ, after_cons]
      have first : (controller.perform (.submit payload tier)).1 =
          (controller.submit payload tier).1 := rfl
      have ways := controller.submission payload tier
      rw [first]
      generalize controller.submit payload tier = outcome at ways
      cases ways with
      | locked locked => simp [unlocked] at locked
      | invalid _ invalid => exact absurd valid invalid
      | full _ _ full =>
          obtain ⟨number, items, same, filled⟩ :=
            @inductionHypothesis { controller with nextId := controller.nextId + 1 } unlocked valid
          refine ⟨number, items, same, ?_⟩
          rw [Nat.min_eq_left (Nat.le_add_right_of_le full)] at filled ⊢
          exact filled
      | accepted _ _ room =>
          obtain ⟨number, items, same, filled⟩ := @inductionHypothesis
            { controller with
              nextId := controller.nextId + 1
              queues := controller.queues.withItems tier (controller.queues.items tier ++
                [⟨controller.nextId, tier, payload, controller.round⟩]) } unlocked valid
          refine ⟨number, items, ?_, ?_⟩
          · rw [same, AdmissionQueues.withItems_withItems]
          · rw [AdmissionQueues.capacity_withItems, AdmissionQueues.depth,
              AdmissionQueues.items_withItems, if_pos rfl, List.length_append,
              List.length_singleton, Nat.add_assoc, Nat.add_comm 1] at filled
            exact filled

/-- Only an accepted submission admits an item, and only one with a valid payload. -/
theorem isValid_of_admitted? {operation : Operation} {item : WorkItem}
    (admitted : (controller.stepOf operation).admitted? = some item) :
    item.payload.IsValid controller.queues.payloadLimit := by
  cases operation with
  | submit payload tier =>
      unfold stepOf perform Step.admitted? at admitted
      dsimp only at admitted
      cases accepted : (controller.submit payload tier).2 with
      | error refusal =>
          rw [accepted] at admitted
          cases admitted
      | ok id =>
          rw [accepted] at admitted
          cases admitted
          exact (controller.submission payload tier).isValid accepted
  | _ => cases admitted

/-- The ways in which a withdrawal can go. -/
inductive Withdrawal (controller : Controller) (work : WorkId) :
    Controller × Except Refusal DropRecord → Prop where
  | refused (absent : ∀ tier, ∀ item ∈ controller.queues.items tier, item.id ≠ work) :
      Withdrawal controller work (controller, .error (.notQueued work))
  | taken {tier : Tier} {item : WorkItem} {before after : List WorkItem}
      (named : item.id = work) (items : controller.queues.items tier = before ++ item :: after) :
      Withdrawal controller work
        ({ controller with
            queues := controller.queues.withItems tier (before ++ after)
            faultRetries := controller.faultRetries.erase work
            collector := controller.collector.forget work
            ledger := controller.ledger.recordDrops [item.dropRecord .withdrawn controller.round] },
          .ok (item.dropRecord .withdrawn controller.round))

/-- Every withdrawal ends in one of the two ways. -/
theorem withdrawal (controller : Controller) (work : WorkId) :
    controller.Withdrawal work (controller.withdraw work) := by
  unfold withdraw
  split
  next absent => exact .refused (AdmissionQueues.withdraw?_eq_none_iff.1 absent)
  next item queues withdrawn =>
    obtain ⟨rfl, tier, before, after, items, rfl⟩ := AdmissionQueues.withdraw?_eq_some withdrawn
    exact .taken rfl items

namespace Withdrawal

variable {outcome : Controller × Except Refusal DropRecord}

/-- A withdrawal succeeds exactly if the item is queued. -/
theorem isOk_iff (withdrawal : controller.Withdrawal work outcome) :
    (∃ drop, outcome.2 = .ok drop) ↔
      ∃ tier, ∃ item ∈ controller.queues.items tier, item.id = work := by
  cases withdrawal with
  | refused absent =>
      refine iff_of_false nofun ?_
      rintro ⟨tier, item, member, named⟩
      exact absent tier item member named
  | @taken tier item before after named items =>
      refine iff_of_true ⟨_, rfl⟩ ⟨tier, item, ?_, named⟩
      simp [items]

/-- A refused withdrawal leaves the controller as it is. -/
theorem unchanged (withdrawal : controller.Withdrawal work outcome) {refusal : Refusal}
    (refused : outcome.2 = .error refusal) : outcome = (controller, .error (.notQueued work)) := by
  cases withdrawal with
  | refused => rfl
  | taken => cases refused

/-- A withdrawal takes its item out of its queue and changes nothing else. -/
theorem removed (withdrawal : controller.Withdrawal work outcome) {drop : DropRecord}
    (withdrawn : outcome.2 = .ok drop) :
    ∃ tier item before after, item.id = work ∧
      controller.queues.items tier = before ++ item :: after ∧
      drop = item.dropRecord .withdrawn controller.round ∧
      outcome.1 = { controller with
        queues := controller.queues.withItems tier (before ++ after)
        faultRetries := controller.faultRetries.erase work
        collector := controller.collector.forget work
        ledger := controller.ledger.recordDrops [drop] } := by
  cases withdrawal with
  | refused => cases withdrawn
  | taken named items =>
      cases withdrawn
      exact ⟨_, _, _, _, named, items, rfl, rfl⟩

end Withdrawal

end Controller

end Answers

/-- Submissions and withdrawals are refused for their reasons only, and what is refused leaves
no trace. -/
structure LeavesNoTrace (config : Configuration) (history : History) (controller : Controller) :
    Prop where
  lockdown : ∀ payload tier,
    (controller.submit payload tier).2 = .error .lockdown ↔ controller.gate.lockdown = true
  invalidItem : ∀ payload tier,
    (∃ fault, (controller.submit payload tier).2 = .error (.invalidItem fault)) ↔
      controller.gate.lockdown = false ∧ ¬ payload.IsValid config.pool.maxPayloadBytes
  queueFull : ∀ payload tier named,
    (controller.submit payload tier).2 = .error (.queueFull named) ↔
      named = tier ∧ controller.gate.lockdown = false ∧
        payload.IsValid config.pool.maxPayloadBytes ∧
          config.queues.capacityFor tier ≤ controller.queues.depth tier
  /-- What is not refused joins its tier as the last item, with a number beyond all earlier
  ones. -/
  accepted : ∀ payload tier, controller.gate.lockdown = false →
    payload.IsValid config.pool.maxPayloadBytes →
    controller.queues.depth tier < config.queues.capacityFor tier →
      ∃ id, (∀ item ∈ history.admitted, item.id < id) ∧
        controller.submit payload tier =
          ({ controller with
              nextId := id + 1
              queues := controller.queues.withItems tier
                (controller.queues.items tier ++ [⟨id, tier, payload, controller.round⟩]) },
            .ok id)
  /-- A refused submission changes at most the next number. -/
  unsubmitted : ∀ payload tier refusal,
    (controller.submit payload tier).2 = .error refusal →
      (controller.submit payload tier).1 =
        { controller with nextId := (controller.submit payload tier).1.nextId }
  withdraws : ∀ work,
    (∃ drop, (controller.withdraw work).2 = .ok drop) ↔
      ∃ tier, ∃ item ∈ controller.queues.items tier, item.id = work
  /-- What is withdrawn leaves the others in their order. -/
  withdrawn : ∀ work drop, (controller.withdraw work).2 = .ok drop →
    ∃ tier item before after, item.id = work ∧
      controller.queues.items tier = before ++ item :: after ∧
      drop = item.dropRecord .withdrawn controller.round ∧
      (controller.withdraw work).1 = { controller with
        queues := controller.queues.withItems tier (before ++ after)
        faultRetries := controller.faultRetries.erase work
        collector := controller.collector.forget work
        ledger := controller.ledger.recordDrops [drop] }
  /-- No two items that wait have the same number, so no other one is meant. -/
  single : (controller.queues.contents.map (·.id)).Nodup
  unwithdrawn : ∀ work refusal, (controller.withdraw work).2 = .error refusal →
    controller.withdraw work = (controller, .error (.notQueued work))
  waiting : ∀ tier, ∀ item ∈ controller.queues.items tier,
    item.payload.IsValid config.pool.maxPayloadBytes
  atWork : ∀ slot ∈ controller.pool.slots, ∀ item ∈ slot.item,
    item.payload.IsValid config.pool.maxPayloadBytes

namespace Lifetime

variable {config : Configuration} {history : History} {controller : Controller}

/-- Every admitted item has a valid payload. -/
theorem isValid_of_admitted (lifetime : Lifetime config history controller) :
    ∀ item ∈ history.admitted, item.payload.IsValid config.pool.maxPayloadBytes := by
  induction lifetime with
  | start => simp [History.admitted]
  | @step history before prior operation inductionHypothesis =>
      intro item member
      rw [History.admitted_append, List.mem_append] at member
      rcases member with old | new
      · exact inductionHypothesis item old
      · rw [← prior.payloadLimit]
        have admitted : (before.stepOf operation).admitted? = some item := by
          simpa [History.admitted] using new
        exact Controller.isValid_of_admitted? admitted

/-- At every point of every lifetime, what is refused leaves no trace. -/
theorem leavesNoTrace (lifetime : Lifetime config history controller) :
    LeavesNoTrace config history controller := by
  have ledgered := lifetime.ledgered
  have capacity := lifetime.hasRoom.capacity
  have valid : ∀ item ∈ controller.live, item.payload.IsValid config.pool.maxPayloadBytes :=
    fun item alive => lifetime.isValid_of_admitted item
      (Multiset.mem_coe.1 (ledgered.accounted.mem_of_live alive))
  constructor
  case lockdown => exact fun payload tier => (controller.submission payload tier).lockdown_iff
  case invalidItem =>
    intro payload tier
    rw [← lifetime.payloadLimit]
    exact (controller.submission payload tier).invalidItem_iff
  case queueFull =>
    intro payload tier named
    rw [← lifetime.payloadLimit, ← capacity]
    exact (controller.submission payload tier).queueFull_iff named
  case accepted =>
    intro payload tier unlocked fits room
    refine ⟨controller.nextId, ledgered.numbered, ?_⟩
    rw [← lifetime.payloadLimit] at fits
    rw [← capacity] at room
    exact (controller.submission payload tier).eq_of_room unlocked fits room
  case unsubmitted =>
    exact fun payload tier _ refused => (controller.submission payload tier).unchanged refused
  case withdraws => exact fun work => (controller.withdrawal work).isOk_iff
  case withdrawn => exact fun work _ taken => (controller.withdrawal work).removed taken
  case single =>
    have distinct := ledgered.distinct_live
    rw [Controller.live, Multiset.map_add, Multiset.nodup_add] at distinct
    exact distinct.1
  case unwithdrawn =>
    exact fun work _ refused => (controller.withdrawal work).unchanged refused
  case waiting =>
    intro tier item member
    have waits := AdmissionQueues.mem_contents.2 ⟨tier, member⟩
    exact valid item (Multiset.mem_add.2 (.inl waits))
  case atWork =>
    intro slot present item holds
    have held := WorkerPool.mem_gather.2 ⟨slot, present, holds⟩
    exact valid item (Multiset.mem_add.2 (.inr held))

/-- The second payload starts with a reserved word and the third one finds its tier full; both
use up a number. A number that is not queued is not withdrawn. -/
theorem leavesNoTrace_after_refusals :
    let start := Controller.start
      { pool := { workers := 1 }, queues := { capacity := 1, reclaimHeadroom := 1 } }
    let operations : List Operation :=
      [.submit ⟨[1]⟩ .low, .submit ⟨[0xEF, 0xBE, 0xAD, 0xDE, 1]⟩ .low, .submit ⟨[2]⟩ .low,
        .withdraw 2]
    let history := start.stepsOf operations
    let controller := start.after operations
    Lifetime { pool := { workers := 1 }, queues := { capacity := 1, reclaimHeadroom := 1 } }
        history controller ∧
      history.admitted.map (·.id) = [1] ∧ controller.nextId = 4 ∧
      LeavesNoTrace
        { pool := { workers := 1 }, queues := { capacity := 1, reclaimHeadroom := 1 } }
        history controller := by
  intro start operations history controller
  have lifetime : Lifetime
      { pool := { workers := 1 }, queues := { capacity := 1, reclaimHeadroom := 1 } }
      history controller := (Lifetime.start rfl).after operations
  refine ⟨lifetime, ?_, ?_, lifetime.leavesNoTrace⟩ <;> decide +kernel

end Lifetime

end PoolArbiter
