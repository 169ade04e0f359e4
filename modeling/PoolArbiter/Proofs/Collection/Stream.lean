import PoolArbiter.Proofs.Custody.ExactlyOnce

/-!
# The stream of hits

Every result that a round logs is put into the stream of hits, in the order of the log,
and nothing else is: `Turn.Streams` says so of a turn. `Streaming` are the lifetimes in
which the stream is handed out, read and left at any time. As long as the reader stays,
what was read and what still waits are the hits of all reports.
-/

namespace PoolArbiter

namespace HitStream

/-- While the reader stays, the stream takes the hits among several results. -/
theorem foldl_publish (results : List WorkResult) {stream : HitStream}
    (attended : stream.abandoned = false) :
    results.foldl publish stream =
      { stream with waiting := stream.waiting ++ results.filter (·.outcome.isFound) } := by
  induction results generalizing stream with
  | nil => simp
  | cons result rest inductionHypothesis =>
      rw [List.foldl_cons, List.filter_cons]
      cases found : result.outcome.isFound with
      | false =>
          have lost : stream.publish result = stream := by simp [publish, found]
          rw [lost, inductionHypothesis attended]
          rfl
      | true =>
          have taken : stream.publish result =
              { stream with waiting := stream.waiting ++ [result] } := by
            simp [publish, found, attended]
          have present : (stream.publish result).abandoned = false := by
            rw [taken]
            exact attended
          rw [inductionHypothesis present, taken]
          simp

/-- Publishing does not bring a reader back. -/
theorem abandoned_foldl_publish (results : List WorkResult) (stream : HitStream) :
    (results.foldl publish stream).abandoned = stream.abandoned :=
  List.foldlRecOn (motive := fun filled : HitStream => filled.abandoned = stream.abandoned)
    results publish rfl fun filled same result _ => by
      unfold publish
      split <;> exact same

end HitStream

namespace Turn

/-- The stream of a turn has taken the results that the turn has logged. -/
def Streams (hits : HitStream) (turn : Turn) : Prop :=
  turn.controller.hits = turn.log.results.foldl HitStream.publish hits

variable {hits : HitStream} {turn final : Turn}

/-- A published hit joins the stream. -/
theorem Streams.publish (streams : turn.Streams hits) (result : WorkResult) :
    (turn.publish result).Streams hits := by
  unfold Streams at streams ⊢
  rw [Turn.publish]
  simp only [List.foldl_append, List.foldl_cons, List.foldl_nil, streams]

/-- An item that is queued again or dropped leaves the stream alone. -/
theorem Streams.requeueOrDrop (streams : turn.Streams hits) (item : WorkItem) :
    (turn.requeueOrDrop item).Streams hits := by
  unfold Turn.requeueOrDrop
  dsimp only
  split <;> exact streams

/-- Collecting adds the hits among its results to the stream. -/
theorem Streams.collect (streams : turn.Streams hits) (snapshot : Snapshot) :
    (turn.collect snapshot).Streams hits :=
  List.foldlRecOn (motive := Turn.Streams hits) _ _ streams
    fun _ streams result _ => streams.publish result

/-- A fault leaves the stream alone. -/
theorem Streams.reclaimFault (streams : turn.Streams hits) (worker : WorkerId) :
    (turn.reclaimFault worker).Streams hits := by
  unfold Turn.reclaimFault
  dsimp only
  split
  · exact streams
  · split
    · exact streams
    · refine Streams.requeueOrDrop ?_ _
      exact streams

/-- Taking back late items leaves the stream alone. -/
theorem Streams.detectFaults (streams : turn.Streams hits) : turn.detectFaults.Streams hits :=
  List.foldlRecOn (motive := Turn.Streams hits) _ _ streams
    fun _ streams worker _ => streams.reclaimFault worker

/-- Health reports leave the stream alone. -/
theorem Streams.applyHealth (streams : turn.Streams hits) (snapshot : Snapshot) :
    (turn.applyHealth snapshot).Streams hits :=
  List.foldlRecOn (motive := Turn.Streams hits) _ _ streams
    fun _ streams item _ => streams.requeueOrDrop item

/-- Idling a worker leaves the stream alone. -/
theorem Streams.preempt (streams : turn.Streams hits) (worker : WorkerId) :
    (turn.preempt worker).Streams hits := by
  unfold Turn.preempt
  dsimp only
  split
  · exact streams
  · split
    · refine Streams.publish ?_ _
      exact streams
    · refine Streams.requeueOrDrop ?_ _
      exact streams

/-- Enforcing the cap leaves the stream alone. -/
theorem Streams.enforceCap (streams : turn.Streams hits) (snapshot : Snapshot) :
    (turn.enforceCap snapshot).Streams hits :=
  List.foldlRecOn (motive := Turn.Streams hits) _ _ streams
    fun _ streams worker _ => streams.preempt worker

/-- The adaptation leaves the stream alone. -/
theorem Streams.adapt (streams : turn.Streams hits) : turn.adapt.Streams hits := by
  unfold Turn.adapt
  dsimp only
  split <;> exact streams

/-- Assignments leave the stream alone. -/
theorem Streams.assigns (assigns : Assigns turn final) (streams : turn.Streams hits) :
    final.Streams hits := by
  induction assigns with
  | done => exact streams
  | handOver _ _ inductionHypothesis => exact inductionHypothesis streams

/-- The stream after a round has the hits of its results. -/
theorem Streams.report (streams : turn.Streams hits) :
    turn.settleQuality.report.1.hits =
      turn.settleQuality.report.2.log.results.foldl HitStream.publish hits :=
  streams

end Turn

namespace Controller

variable {controller : Controller}

/-- A round puts the results that it reports into the stream. -/
theorem Sound.hits_runRound (sound : controller.Sound) :
    controller.runRound.1.hits =
      controller.runRound.2.log.results.foldl HitStream.publish controller.hits := by
  have start : controller.beginRound.Streams controller.hits := rfl
  have settled : (controller.beginRound.settleVerdicts
    (Snapshot.ofReports controller.feed)).Streams controller.hits := start
  have selecting : controller.selecting.Streams controller.hits :=
    ((((settled.collect _).detectFaults).applyHealth _).enforceCap _).adapt
  rw [runRound_eq]
  exact (selecting.assigns (Turn.assignAll_assigns sound.selecting.sound)).report

/-- An operation puts the results that it gives back into the stream. -/
theorem Sound.hits_perform (sound : controller.Sound) (operation : Operation) :
    (controller.perform operation).1.hits =
      (controller.stepOf operation).results.foldl HitStream.publish controller.hits := by
  cases operation with
  | round => exact sound.hits_runRound
  | submit payload tier =>
      unfold stepOf Controller.perform Controller.submit
      dsimp only
      split
      · rfl
      · split <;> rfl
  | withdraw work =>
      unfold stepOf Controller.perform Controller.withdraw
      dsimp only
      split <;> rfl
  | drain =>
      obtain ⟨_, _, _, same⟩ := controller.drainWorkers_eq
      have kept := congrArg Controller.hits same
      exact kept
  | _ => rfl

end Controller

/-- The lifetimes in which the stream of hits is handed out, read and left, with what was
read. -/
inductive Streaming (config : Configuration) : History → List WorkResult → Controller → Prop where
  | start {controller} (created : Controller.create config = .ok controller) :
      Streaming config [] [] controller
  | step {history read controller} (prior : Streaming config history read controller)
      (operation : Operation) :
      Streaming config (history ++ [controller.stepOf operation]) read
        (controller.perform operation).1
  | take {history read controller} (prior : Streaming config history read controller) :
      Streaming config history read controller.takeHits.1
  | read {history read controller} (prior : Streaming config history read controller) :
      Streaming config history (read ++ controller.readHits.2) controller.readHits.1
  | leave {history read controller} (prior : Streaming config history read controller) :
      Streaming config history read controller.abandonHits

namespace Streaming

variable {config : Configuration} {history : History} {read : List WorkResult}
  {controller : Controller}

/-- What operations keep holds throughout, if it does not depend on the stream. -/
theorem invariant (streaming : Streaming config history read controller)
    (property : History → Controller → Prop) (initial : property [] (.start config))
    (preserved : ∀ {history before} (operation : Operation), property history before →
      property (history ++ [before.stepOf operation]) (before.perform operation).1)
    (indifferent : ∀ {history before} (hits : HitStream), property history before →
      property history { before with hits := hits }) :
    property history controller := by
  induction streaming with
  | start created => exact Lifetime.start_eq created ▸ initial
  | step _ operation inductionHypothesis => exact preserved operation inductionHypothesis
  | take _ inductionHypothesis => exact indifferent _ inductionHypothesis
  | read _ inductionHypothesis =>
      unfold Controller.readHits
      split
      · exact indifferent _ inductionHypothesis
      · exact inductionHypothesis
  | leave _ inductionHypothesis =>
      unfold Controller.abandonHits
      split
      · exact indifferent _ inductionHypothesis
      · exact inductionHypothesis

/-- A lifetime in which nobody asks for the stream. -/
theorem of_lifetime (lifetime : Lifetime config history controller) :
    Streaming config history [] controller := by
  induction lifetime with
  | start created => exact .start created
  | step _ operation inductionHypothesis => exact inductionHypothesis.step operation

/-- A stream is read of a sound controller. -/
theorem sound (streaming : Streaming config history read controller) : controller.Sound :=
  streaming.invariant (fun _ controller => controller.Sound)
    (Lifetime.ledgered_start config).sound
    (fun operation sound => (sound.perform operation).sound)
    fun _ sound => ⟨sound.pool, sound.queues⟩

/-- As long as the reader stays, what was read and what waits are the hits of the reports. -/
theorem hits (streaming : Streaming config history read controller)
    (attended : controller.hits.abandoned = false) :
    read ++ controller.hits.waiting = history.results.filter (·.outcome.isFound) := by
  induction streaming with
  | start created =>
      rw [Lifetime.start_eq created]
      rfl
  | step prior operation inductionHypothesis =>
      rw [prior.sound.hits_perform operation] at attended ⊢
      rw [HitStream.abandoned_foldl_publish] at attended
      rw [HitStream.foldl_publish _ attended, History.results_concat, List.filter_append,
        ← inductionHypothesis attended, List.append_assoc]
  | take _ inductionHypothesis => exact inductionHypothesis attended
  | read _ inductionHypothesis =>
      unfold Controller.readHits at attended ⊢
      split at attended
      next taken =>
        rw [if_pos taken, ← inductionHypothesis attended]
        exact List.append_nil _
      next kept =>
        rw [if_neg kept, ← inductionHypothesis attended, List.append_nil]
  | leave _ inductionHypothesis =>
      unfold Controller.abandonHits at attended ⊢
      split at attended
      next => cases attended
      next kept =>
        rw [if_neg kept]
        exact inductionHypothesis attended

end Streaming

end PoolArbiter
