import PoolArbiter.Proofs.Custody.Round

/-!
# Custody through an operation

`Controller.Sound.perform` says of every operation what becomes of the items that
were live before it and of the item that it admits: each is live afterwards or is
closed by one record of the answer.
-/

namespace PoolArbiter

namespace Controller

variable {controller : Controller}

/-- What an operation does to the items. -/
structure Accounts (controller : Controller) (step : Step) (next : Controller) : Prop where
  sound : next.Sound
  accounted : Accounted (step.admitted?.toList + controller.live) next.live step.records
  /-- An admitted item is given the next number, and the number is used up. -/
  numbered : ∀ item ∈ step.admitted?, item.id = controller.nextId ∧
    controller.nextId < next.nextId
  ascending : controller.nextId ≤ next.nextId

/-- An operation that admits nothing and accounts for the live items by its records. -/
theorem Accounts.ofCustody {step : Step} {next : Controller}
    (custody : Custody controller.live 0 next.queues next.pool step.records)
    (refuses : step.admitted? = none) (ascending : controller.nextId ≤ next.nextId) :
    controller.Accounts step next where
  sound := ⟨custody.sound, custody.sorted⟩
  accounted := by
    rw [refuses]
    simpa [live] using custody.accounted
  numbered := by simp [refuses]
  ascending := ascending

/-- The items of a sound controller are in its custody. -/
theorem Sound.custody (sound : controller.Sound) :
    Custody controller.live 0 controller.queues controller.pool [] where
  sound := sound.pool
  sorted := sound.queues
  accounted := by
    rw [zero_add]
    exact Accounted.refl controller.live

/-- A submission accounts for every item. -/
theorem Sound.submit (sound : controller.Sound) (payload : Payload) (tier : Tier) :
    controller.Accounts (controller.stepOf (.submit payload tier))
      (controller.perform (.submit payload tier)).1 := by
  unfold stepOf perform Controller.submit
  dsimp only
  split
  next => exact .ofCustody sound.custody rfl (Nat.le_refl _)
  next =>
    split
    next queues accepted =>
      refine ⟨⟨sound.pool, sound.queues.enqueue accepted⟩, ?_, ?_, Nat.le_succ _⟩
      · have joined := AdmissionQueues.contents_enqueue accepted
        have same : live { controller with nextId := controller.nextId + 1, queues := queues } =
            ⟨controller.nextId, tier, payload, controller.round⟩ ::ₘ controller.live := by
          rw [live, joined, Multiset.cons_add]
          rfl
        rw [same]
        exact Accounted.refl _
      · rintro item ⟨⟩
        exact ⟨rfl, Nat.lt_succ_self _⟩
    next => exact .ofCustody sound.custody rfl (Nat.le_succ _)

/-- A round accounts for every item. -/
theorem Sound.round (sound : controller.Sound) :
    controller.Accounts (controller.stepOf .round) (controller.perform .round).1 := by
  have same := congrArg Frame.nextId sound.frame_runRound
  simp only [frame] at same
  exact .ofCustody sound.runRound rfl same.ge

/-- A withdrawal accounts for every item. -/
theorem Sound.withdraw (sound : controller.Sound) (work : WorkId) :
    controller.Accounts (controller.stepOf (.withdraw work))
      (controller.perform (.withdraw work)).1 := by
  unfold stepOf perform Controller.withdraw
  dsimp only
  split
  next => exact .ofCustody sound.custody rfl (Nat.le_refl _)
  next item queues withdrawn =>
    refine .ofCustody ⟨sound.pool, sound.queues.withdraw? withdrawn, ?_⟩ rfl (Nat.le_refl _)
    rw [live, AdmissionQueues.contents_withdraw? withdrawn, Multiset.cons_add, zero_add]
    exact (Accounted.refl _).close (Record.closes_dropRecord item .withdrawn controller.round)
      (List.Perm.refl _)

/-- A drained worker hands its item over to the drops. -/
theorem custody_drainWorker {items : Multiset WorkItem} {worker : WorkerId}
    {progress : Controller × List DropRecord}
    (custody : Custody items 0 progress.1.queues progress.1.pool (progress.2.map .dropped))
    (trusts : progress.1.pool.Trusts worker) :
    Custody items 0 (drainWorker progress worker).1.queues
      (drainWorker progress worker).1.pool ((drainWorker progress worker).2.map .dropped) := by
  have released := custody.release trusts
  unfold drainWorker
  dsimp only
  split
  next free =>
    rw [free] at released
    exact released
  next item holds =>
    rw [holds] at released
    refine released.close (Record.closes_dropRecord item .drained progress.1.round) ?_
    rw [List.map_append]
    exact List.perm_append_singleton _ _

/-- Draining a worker idles it. -/
theorem pool_drainWorker (progress : Controller × List DropRecord) (worker : WorkerId) :
    (drainWorker progress worker).1.pool = progress.1.pool.release worker .idle := by
  unfold drainWorker
  dsimp only
  split <;> rfl

/-- Draining a worker numbers no new item. -/
theorem nextId_drainWorker (progress : Controller × List DropRecord) (worker : WorkerId) :
    (drainWorker progress worker).1.nextId = progress.1.nextId := by
  unfold drainWorker
  dsimp only
  split <;> rfl

/-- Draining accounts for every item. -/
theorem Sound.drain (sound : controller.Sound) :
    controller.Accounts (controller.stepOf .drain) (controller.perform .drain).1 := by
  refine .ofCustody ?_ rfl ?_
  · refine WorkerPool.foldl_release (fun progress : Controller × List DropRecord => progress.1.pool)
        (motive := fun progress =>
        Custody controller.live 0 progress.1.queues progress.1.pool
          (progress.2.map Record.dropped))
      custody_drainWorker pool_drainWorker sound.custody ?_
    intro worker member
    exact sound.pool.trusts_of_mem_activeDescending (List.mem_reverse.1 member)
  · refine Nat.le_of_eq ?_
    apply List.foldlRecOn (motive := fun progress : Controller × List DropRecord =>
      controller.nextId = progress.1.nextId)
    · rfl
    · intro progress same worker _
      rw [nextId_drainWorker]
      exact same

/-- A restored worker still holds what it held. -/
theorem custody_restore {items : Multiset WorkItem} {queues : AdmissionQueues}
    {pool : WorkerPool} {worker : WorkerId} (custody : Custody items 0 queues pool []) :
    Custody items 0 queues (pool.update worker TrustGate.restore) [] := by
  cases found : pool.slot? worker with
  | none =>
      rw [WorkerPool.update_of_slot?_eq_none found]
      exact custody
  | some slot =>
      exact custody.alter found (fun _ => rfl)
        (custody.sound.slot (WorkerPool.mem_of_slot? found)).restore rfl

/-- The security reset accounts for every item. -/
theorem Sound.resetSecurity (sound : controller.Sound) :
    controller.Accounts (controller.stepOf .resetSecurity)
      (controller.perform .resetSecurity).1 := by
  refine .ofCustody ?_ rfl (Nat.le_refl _)
  apply List.foldlRecOn (motive := fun pool =>
    Custody controller.live 0 controller.queues pool [])
  · exact sound.custody
  · intro pool custody worker _
    exact custody_restore custody

/-- Every operation accounts for the items. -/
theorem Sound.perform (sound : controller.Sound) (operation : Operation) :
    controller.Accounts (controller.stepOf operation) (controller.perform operation).1 := by
  cases operation with
  | submit payload tier => exact sound.submit payload tier
  | receive report => exact .ofCustody sound.custody rfl (Nat.le_refl _)
  | setModes modes => exact .ofCustody sound.custody rfl (Nat.le_refl _)
  | setBudget watts => exact .ofCustody sound.custody rfl (Nat.le_refl _)
  | round => exact sound.round
  | withdraw work => exact sound.withdraw work
  | drain => exact sound.drain
  | resetSecurity => exact sound.resetSecurity

end Controller

end PoolArbiter
