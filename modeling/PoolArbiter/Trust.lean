import PoolArbiter.Feed
import PoolArbiter.Worker.Pool

/-!
# The trust gate

The gate excludes workers that were tampered with and counts violations. Enough
violations raise the lockdown, which stays until the security state is reset.
-/

namespace PoolArbiter

/-- The security state. -/
structure TrustGate where
  deviationThreshold : Float
  lockdownThreshold : Nat
  violations : Nat
  lockdown : Bool
  /-- The excluded workers. -/
  excluded : KeyMap WorkerId Unit

/-- What a batch of health reports changed. -/
structure TrustChange where
  /-- Workers excluded by this batch, in the order of their reports. -/
  excluded : List WorkerId := []
  /-- Items taken back from workers at work. -/
  reclaimed : List WorkItem := []
  /-- Whether the batch raised the lockdown. -/
  raised : Bool := false

namespace TrustGate

/-- The greatest count of violations. -/
def greatestCount : Nat :=
  0xFFFFFFFF

/-- A gate without violations. -/
def fresh (settings : SecuritySettings) : TrustGate where
  deviationThreshold := settings.deviationThreshold
  lockdownThreshold := max 1 settings.lockdownThreshold
  violations := 0
  lockdown := false
  excluded := .empty

/-- Whether one more violation raises the lockdown. -/
def raisesLockdown (gate : TrustGate) : Bool :=
  gate.lockdownThreshold ≤ min greatestCount (gate.violations + 1) && !gate.lockdown

/-- Count a violation. -/
def countViolation (gate : TrustGate) : TrustGate :=
  { gate with
    violations := min greatestCount (gate.violations + 1)
    lockdown := gate.lockdown || gate.raisesLockdown }

/-- Count a violation for each of several causes; the flag tells whether they
raised the lockdown. -/
def countViolations (gate : TrustGate) : Nat → TrustGate × Bool
  | 0 => (gate, false)
  | count + 1 =>
      let (counted, raised) := gate.countViolation.countViolations count
      (counted, gate.raisesLockdown || raised)

/-- The gate, the pool and the changes while health reports are applied. -/
structure Progress where
  gate : TrustGate
  pool : WorkerPool
  change : TrustChange

/-- Count a violation and note whether it raised the lockdown. -/
def Progress.countViolation (progress : Progress) : Progress where
  gate := progress.gate.countViolation
  pool := progress.pool
  change :=
    { progress.change with raised := progress.change.raised || progress.gate.raisesLockdown }

/-- Exclude a worker: take its item, which is to be done again if the worker was
at work, and trust it no longer. -/
def Progress.exclude (progress : Progress) (slot : WorkerSlot) (worker : WorkerId) :
    Progress where
  gate := { progress.gate with excluded := progress.gate.excluded.insert worker () }
  pool := progress.pool.update worker fun held =>
    { held.vacate .unavailable with trusted := false }
  change :=
    { progress.change with
      excluded := progress.change.excluded ++ [worker]
      reclaimed := progress.change.reclaimed ++
        if slot.isActive then slot.item.toList else [] }

/-- Apply one health report. A deviation above the threshold is a violation; so is
tampering with a worker that was trusted until now, which is excluded. Reports
on workers that do not exist are ignored. -/
def Progress.applyReport (progress : Progress) (report : HealthReport) : Progress :=
  match progress.pool.slot? report.worker with
  | none => progress
  | some slot =>
      let observed :=
        if progress.gate.deviationThreshold < report.deviation then progress.countViolation
        else progress
      if report.tampered && slot.trusted then
        (observed.exclude slot report.worker).countViolation
      else
        observed

/-- Apply health reports in their order. -/
def applyReports (gate : TrustGate) (pool : WorkerPool) (reports : List HealthReport) :
    Progress :=
  reports.foldl Progress.applyReport ⟨gate, pool, {}⟩

/-- Trust a worker again; if it was out of service, it is idle now. -/
def restore (slot : WorkerSlot) : WorkerSlot :=
  { slot with
    trusted := true
    state := if slot.state = .unavailable then .idle else slot.state }

/-- End the lockdown, forget the violations, and return the excluded workers to
service. -/
def reset (gate : TrustGate) (pool : WorkerPool) : TrustGate × WorkerPool :=
  ({ gate with violations := 0, lockdown := false, excluded := .empty },
    gate.excluded.keys.foldl (fun restored worker => restored.update worker restore) pool)

end TrustGate

end PoolArbiter
