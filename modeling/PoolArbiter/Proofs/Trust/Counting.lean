import PoolArbiter.Proofs.Trust.Gate
import PoolArbiter.Proofs.Worker.Working

/-!
# How violations are counted

A gate is exact if it is locked just when its violations have reached the threshold.
`TrustGate.Counts` relates an exact gate to the gate after a number of violations, with
the flag that tells whether they raised the lockdown. It composes, so several causes
in a row count as their sum. A batch of health reports counts the deviations above the
threshold and the trusted workers that a report finds tampered with.
-/

namespace PoolArbiter

namespace TrustGate

/-- The violations are within their bound, and the lockdown is up just if they have
reached the threshold. -/
structure Exact (gate : TrustGate) : Prop where
  positive : 0 < gate.lockdownThreshold
  bounded : gate.violations ≤ greatestCount
  locked : gate.lockdown = true ↔ gate.lockdownThreshold ≤ gate.violations

/-- A gate has counted some violations, and the flag tells whether they raised the
lockdown. -/
structure Counts (before after : TrustGate) (count : Nat) (raised : Bool) : Prop where
  exact : after.Exact
  lockdownThreshold : after.lockdownThreshold = before.lockdownThreshold
  deviationThreshold : after.deviationThreshold = before.deviationThreshold
  violations : after.violations = min greatestCount (before.violations + count)
  raised : raised = (!before.lockdown && after.lockdown)

variable {gate before middle after : TrustGate} {count more : Nat} {first second : Bool}

/-- Nothing counts no violations. -/
theorem Exact.counts_zero (exact : gate.Exact) : Counts gate gate 0 false where
  exact := exact
  lockdownThreshold := rfl
  deviationThreshold := rfl
  violations := by
    rw [Nat.add_zero, Nat.min_eq_right exact.bounded]
  raised := by simp

/-- Counting a violation keeps the count exact. -/
theorem Exact.countViolation (exact : gate.Exact) : gate.countViolation.Exact where
  positive := exact.positive
  bounded := Nat.min_le_left _ _
  locked := by
    have locked := exact.locked
    have bounded := exact.bounded
    unfold TrustGate.countViolation raisesLockdown
    cases up : gate.lockdown with
    | false => simp
    | true =>
        rw [up] at locked
        have reached := locked.1 rfl
        simp only [Bool.true_or, true_iff]
        omega

/-- Counting a violation counts one. -/
theorem Exact.counts_countViolation (exact : gate.Exact) :
    Counts gate gate.countViolation 1 gate.raisesLockdown where
  exact := exact.countViolation
  lockdownThreshold := rfl
  deviationThreshold := rfl
  violations := rfl
  raised := by
    unfold TrustGate.countViolation raisesLockdown
    cases gate.lockdown <;> simp

/-- A lockdown that is up stays up while violations are counted. -/
theorem Counts.keeps (counts : Counts before after count first) (exact : before.Exact)
    (up : before.lockdown = true) : after.lockdown = true := by
  have reached := exact.locked.1 up
  have bounded := exact.bounded
  rw [counts.exact.locked, counts.lockdownThreshold, counts.violations]
  omega

/-- Violations that are counted one after the other count as their sum. -/
theorem Counts.trans (counts : Counts before middle count first) (exact : before.Exact)
    (further : Counts middle after more second) :
    Counts before after (count + more) (first || second) where
  exact := further.exact
  lockdownThreshold := further.lockdownThreshold.trans counts.lockdownThreshold
  deviationThreshold := further.deviationThreshold.trans counts.deviationThreshold
  violations := by
    rw [further.violations, counts.violations]
    omega
  raised := by
    -- The lockdown rises in one of the two parts at most, because it does not fall.
    rw [counts.raised, further.raised]
    have early := counts.keeps exact
    have late := further.keeps counts.exact
    cases up : before.lockdown <;> cases between : middle.lockdown <;> simp_all

/-- Counting violations counts as many. -/
theorem Exact.counts_countViolations (exact : gate.Exact) (count : Nat) :
    Counts gate (gate.countViolations count).1 count (gate.countViolations count).2 := by
  induction count generalizing gate with
  | zero => exact exact.counts_zero
  | succ count inductionHypothesis =>
      have counted := exact.counts_countViolation.trans exact
        (inductionHypothesis exact.countViolation)
      rwa [Nat.add_comm 1 count] at counted

section Reports

/-- Whether a report names a worker of the pool and deviates by more than the threshold. -/
def isDeviation (threshold : Float) (pool : WorkerPool) (report : HealthReport) : Bool :=
  report.worker < pool.size && threshold < report.deviation

/-- Whether a worker is trusted and a report finds it tampered with. -/
def isTampering (reports : List HealthReport) (slot : WorkerSlot) : Bool :=
  slot.trusted && reports.any fun report => report.tampered && report.worker == slot.id

variable {pool : WorkerPool} {reports : List HealthReport} {report : HealthReport}
  {progress : Progress}

/-- Who is tampered with depends on who is trusted alone. -/
theorem countP_isTampering_congr {other : WorkerPool} (sound : pool.Sound)
    (soundOther : other.Sound) (same : pool.trust = other.trust) (reports : List HealthReport) :
    pool.slots.countP (isTampering reports) = other.slots.countP (isTampering reports) := by
  have paired (pool : WorkerPool) (sound : pool.Sound) :
      pool.slots.map (fun slot => (slot.trusted, slot.id)) =
        pool.trust.zip (List.range pool.trust.length) := by
    rw [← List.zip_map', sound.map_id, WorkerPool.trust, List.length_map, WorkerPool.size]
  have viewed (pool : WorkerPool) : pool.slots.countP (isTampering reports) =
      (pool.slots.map fun slot => (slot.trusted, slot.id)).countP fun pair =>
        pair.1 && reports.any fun report => report.tampered && report.worker == pair.2 := by
    rw [List.countP_map]
    rfl
  rw [viewed, viewed, paired pool sound, paired other soundOther, same]

/-- A report that finds no trusted worker tampered with can be left out. -/
theorem countP_isTampering_cons (sound : pool.Sound)
    (spared : ∀ slot, pool.slot? report.worker = some slot →
      (report.tampered && slot.trusted) = false) :
    pool.slots.countP (isTampering (report :: reports)) =
      pool.slots.countP (isTampering reports) := by
  refine List.countP_congr fun slot member => ?_
  unfold isTampering
  rw [List.any_cons]
  by_cases named : report.worker = slot.id
  · have intact := spared slot (by rw [named]; exact sound.found member)
    cases trusted : slot.trusted <;> cases tampered : report.tampered <;> simp_all
  · simp [named]

/-- A report that finds a trusted worker tampered with takes it out of the count. -/
theorem countP_isTampering_exclude {slot : WorkerSlot} (sound : pool.Sound)
    (found : pool.slot? report.worker = some slot) (tampered : report.tampered = true)
    (trusted : slot.trusted = true) :
    pool.slots.countP (isTampering (report :: reports)) =
      (pool.update report.worker fun held =>
        { held.vacate .unavailable with trusted := false }).slots.countP
          (isTampering reports) + 1 := by
  have soundAfter : (pool.update report.worker fun held =>
      { held.vacate .unavailable with trusted := false }).Sound :=
    sound.update (fun _ => rfl) fun slot _ => WorkerSlot.sound_exclude slot
  rw [WorkerPool.countP_update found fun held => { held.vacate .unavailable with trusted := false }]
  · rw [countP_isTampering_cons soundAfter]
    intro other present
    rw [WorkerPool.slot?_update, if_pos rfl, found, Option.map_some] at present
    obtain rfl := Option.some.inj present
    exact Bool.and_false _
  · simp [isTampering, trusted, tampered, sound.number found]
  · simp [isTampering]

/-- A further violation counts one more. -/
theorem Counts.countViolation (counts : Counts gate progress.gate count progress.change.raised)
    (exact : gate.Exact) :
    Counts gate progress.countViolation.gate (count + 1) progress.countViolation.change.raised :=
  counts.trans exact counts.exact.counts_countViolation

/-- Who is excluded does not count. -/
theorem Counts.exclude (counts : Counts gate progress.gate count progress.change.raised)
    (slot : WorkerSlot) (worker : WorkerId) :
    Counts gate (progress.exclude slot worker).gate count
      (progress.exclude slot worker).change.raised where
  exact := ⟨counts.exact.positive, counts.exact.bounded, counts.exact.locked⟩
  lockdownThreshold := counts.lockdownThreshold
  deviationThreshold := counts.deviationThreshold
  violations := counts.violations
  raised := counts.raised

/-- A health report leaves a sound pool. -/
theorem sound_applyReport (sound : progress.pool.Sound) (report : HealthReport) :
    (progress.applyReport report).pool.Sound := by
  rcases progress.applyReport_cases report with ⟨same, _⟩ | ⟨_, _, _, updated, _⟩
  · rwa [same]
  · rw [updated]
    exact sound.update (fun _ => rfl) fun slot _ => WorkerSlot.sound_exclude slot

/-- A health report changes nothing about what deviates. -/
theorem isDeviation_applyReport (threshold : Float) (progress : Progress) (report : HealthReport) :
    isDeviation threshold (progress.applyReport report).pool =
      isDeviation threshold progress.pool := by
  have size : (progress.applyReport report).pool.size = progress.pool.size :=
    congrArg WorkerPool.Layout.workers (WorkerPool.frees_applyReport progress report).layout
  funext other
  rw [isDeviation, size, isDeviation]

/-- One report counts its deviation and the worker that it excludes, if there is one. -/
theorem counts_applyReport (sound : progress.pool.Sound) (exact : gate.Exact)
    (counts : Counts gate progress.gate count progress.change.raised) (report : HealthReport) :
    ∃ excluded, Counts gate (progress.applyReport report).gate
        (count + (isDeviation gate.deviationThreshold progress.pool report).toNat + excluded)
        (progress.applyReport report).change.raised ∧
      ∀ reports, progress.pool.slots.countP (isTampering (report :: reports)) =
        (progress.applyReport report).pool.slots.countP (isTampering reports) + excluded := by
  unfold Progress.applyReport
  split
  next missing =>
    have foreign : isDeviation gate.deviationThreshold progress.pool report = false := by
      have outside := List.getElem?_eq_none_iff.1 missing
      simp [isDeviation, WorkerPool.size, Nat.not_lt_of_le outside]
    refine ⟨0, by rwa [foreign], fun reports => countP_isTampering_cons sound ?_⟩
    simp [missing]
  next slot found =>
    -- The deviation counts first; it leaves the pool as it is.
    obtain ⟨observed, isObserved⟩ : ∃ observed, observed =
        if progress.gate.deviationThreshold < report.deviation then progress.countViolation
        else progress := ⟨_, rfl⟩
    have samePool : observed.pool = progress.pool := by
      rw [isObserved]
      split <;> rfl
    have seen : Counts gate observed.gate
        (count + (isDeviation gate.deviationThreshold progress.pool report).toNat)
        observed.change.raised := by
      obtain ⟨inside, _⟩ := List.getElem?_eq_some_iff.1 found
      rw [isDeviation, ← counts.deviationThreshold, WorkerPool.size, decide_eq_true inside,
        Bool.true_and, isObserved]
      split
      next above => simpa [above] using counts.countViolation exact
      next within => simpa [within] using counts
    dsimp only
    rw [← isObserved]
    split
    next excluded =>
      obtain ⟨tampered, trusted⟩ := Bool.and_eq_true_iff.1 excluded
      refine ⟨1, (seen.exclude slot report.worker).countViolation exact, fun reports => ?_⟩
      rw [countP_isTampering_exclude sound found tampered trusted, ← samePool]
      rfl
    next spared =>
      refine ⟨0, seen, fun reports => ?_⟩
      rw [samePool]
      refine countP_isTampering_cons sound fun other present => ?_
      obtain rfl := Option.some.inj (found.symm.trans present)
      exact Bool.eq_false_iff.2 spared

/-- Health reports count the violations among them. -/
theorem counts_foldl (progress : Progress) (sound : progress.pool.Sound) (exact : gate.Exact)
    (counts : Counts gate progress.gate count progress.change.raised)
    (reports : List HealthReport) :
    Counts gate (reports.foldl Progress.applyReport progress).gate
      (count + reports.countP (isDeviation gate.deviationThreshold progress.pool) +
        progress.pool.slots.countP (isTampering reports))
      (reports.foldl Progress.applyReport progress).change.raised := by
  induction reports generalizing progress count with
  | nil =>
      have none : progress.pool.slots.countP (isTampering []) = 0 :=
        List.countP_eq_zero.2 (by simp [isTampering])
      simpa [none] using counts
  | cons report rest inductionHypothesis =>
      obtain ⟨excluded, counted, tampered⟩ := counts_applyReport sound exact counts report
      have later := inductionHypothesis _ (sound_applyReport sound report) counted
      rw [isDeviation_applyReport] at later
      rw [List.foldl_cons, tampered rest, List.countP_cons]
      have sum : count + (rest.countP (isDeviation gate.deviationThreshold progress.pool) +
            if isDeviation gate.deviationThreshold progress.pool report then 1 else 0) +
          ((progress.applyReport report).pool.slots.countP (isTampering rest) + excluded) =
          count + (isDeviation gate.deviationThreshold progress.pool report).toNat + excluded +
            rest.countP (isDeviation gate.deviationThreshold progress.pool) +
            (progress.applyReport report).pool.slots.countP (isTampering rest) := by
        cases isDeviation gate.deviationThreshold progress.pool report <;> simp <;> omega
      rw [sum]
      exact later

/-- A batch of reports counts the deviations and the trusted workers that it finds tampered
with. -/
theorem counts_applyReports (sound : pool.Sound) (exact : gate.Exact)
    (reports : List HealthReport) :
    Counts gate (gate.applyReports pool reports).gate
      (reports.countP (isDeviation gate.deviationThreshold pool) +
        pool.slots.countP (isTampering reports))
      (gate.applyReports pool reports).change.raised := by
  have counts := counts_foldl ⟨gate, pool, {}⟩ sound exact exact.counts_zero reports
  rwa [Nat.zero_add] at counts

end Reports

end TrustGate

end PoolArbiter
