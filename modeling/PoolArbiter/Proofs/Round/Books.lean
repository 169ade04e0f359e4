import PoolArbiter.Proofs.Round.Oversight

/-!
# The ledger and the hits published last

After its completions a round does not touch the hits that late verdicts are charged to,
and only its report touches the ledger. `Turn.books` collects the two.
-/

namespace PoolArbiter

/-- The ledger and the hits published last. -/
structure Books where
  ledger : Ledger
  recentHits : Recent (WorkId × WorkerId)

/-- The books of a controller. -/
def Controller.books (controller : Controller) : Books where
  ledger := controller.ledger
  recentHits := controller.collector.recentHits

namespace Turn

/-- The books of a turn. -/
def books (turn : Turn) : Books :=
  turn.controller.books

variable (turn : Turn) (snapshot : Snapshot)

@[simp]
theorem books_publish (result : WorkResult) : (turn.publish result).books = turn.books :=
  rfl

@[simp]
theorem books_requeueOrDrop (item : WorkItem) : (turn.requeueOrDrop item).books = turn.books := by
  unfold requeueOrDrop
  dsimp only
  split <;> rfl

/-- Collecting completions leaves the ledger and may add hits. -/
theorem books_collect :
    (turn.collect snapshot).books =
      { turn.books with
        recentHits := (turn.controller.collector.poll snapshot.completions turn.controller.pool
          turn.controller.round).collector.recentHits } :=
  view_foldl books books_publish _ _

@[simp]
theorem books_reclaimFault (worker : WorkerId) :
    (turn.reclaimFault worker).books = turn.books := by
  unfold reclaimFault
  dsimp only
  split
  · rfl
  · split
    · rfl
    · exact books_requeueOrDrop _ _

@[simp]
theorem books_detectFaults : turn.detectFaults.books = turn.books :=
  view_foldl books books_reclaimFault _ _

@[simp]
theorem books_applyHealth : (turn.applyHealth snapshot).books = turn.books :=
  view_foldl books books_requeueOrDrop _ _

@[simp]
theorem books_preempt (worker : WorkerId) : (turn.preempt worker).books = turn.books := by
  unfold preempt
  dsimp only
  split
  · rfl
  · split
    · rfl
    · exact books_requeueOrDrop _ _

@[simp]
theorem books_enforceCap : (turn.enforceCap snapshot).books = turn.books :=
  view_foldl books books_preempt _ _

@[simp]
theorem books_adapt : turn.adapt.books = turn.books := by
  unfold adapt
  dsimp only
  split <;> rfl

/-- Assignments leave the books alone. -/
theorem Assigns.books_eq {turn final : Turn} (assigns : Assigns turn final) :
    final.books = turn.books := by
  induction assigns with
  | done => rfl
  | handOver _ _ inductionHypothesis =>
      rw [inductionHypothesis]
      rfl

/-- The report brings the ledger up to date. -/
theorem books_report :
    turn.settleQuality.report.1.books =
      { turn.books with
        ledger := account turn.controller.ledger turn.log turn.settleQuality.controller } :=
  rfl

end Turn

namespace Controller

variable {controller : Controller}

/-- Up to the collection only the hits published last change. -/
theorem books_collected (controller : Controller) :
    controller.collected.books =
      { controller.books with
        recentHits := controller.collected.controller.collector.recentHits } := by
  have polled := Turn.books_collect
    (controller.beginRound.settleVerdicts (Snapshot.ofReports controller.feed))
    (Snapshot.ofReports controller.feed)
  have ledger := congrArg Books.ledger polled
  exact congrArg (Books.mk · _) ledger

/-- A round counts its log, and the hits published last are those after its
completions. -/
theorem Sound.books_runRound (sound : controller.Sound) :
    controller.runRound.1.books =
      { ledger :=
          Turn.account controller.ledger controller.runRound.2.log
            controller.selecting.assignAll.settleQuality.controller
        recentHits := controller.collected.controller.collector.recentHits } := by
  have assigned : controller.selecting.assignAll.books = controller.collected.books := by
    rw [(Turn.assignAll_assigns sound.selecting.sound).books_eq, selecting_eq, Turn.books_adapt,
      capped, Turn.books_enforceCap, Controller.vetted, Turn.books_applyHealth,
      Controller.inspected, Turn.books_detectFaults]
  rw [books_collected] at assigned
  have ledger := congrArg Books.ledger assigned
  simp only [Turn.books, books] at ledger
  rw [runRound_eq, Turn.books_report, Turn.log_report, assigned, ledger]

/-- Between two rounds the books change only by the drops that are given back. -/
theorem books_perform (controller : Controller) (operation : Operation)
    (between : operation ≠ .round) :
    (controller.perform operation).1.books =
      { controller.books with
        ledger := controller.ledger.recordDrops (controller.stepOf operation).drops } := by
  cases operation with
  | round => exact absurd rfl between
  | submit payload tier =>
      unfold stepOf perform submit
      dsimp only
      split
      · rfl
      · split <;> rfl
  | withdraw work =>
      unfold stepOf perform withdraw
      dsimp only
      split <;> rfl
  | drain =>
      have kept : (controller.pool.activeDescending.reverse.foldl drainWorker
          (controller, [])).1.books = controller.books := by
        obtain ⟨_, _, _, same⟩ := controller.drainWorkers_eq
        have untouched := congrArg books same
        exact untouched
      have ledger := congrArg Books.ledger kept
      have hits := congrArg Books.recentHits kept
      simp only [books] at ledger hits
      rw [books, books, perform, drain]
      simp only [recordDrops, hits]
      rw [ledger]
      rfl
  | _ => rfl

end Controller

end PoolArbiter
