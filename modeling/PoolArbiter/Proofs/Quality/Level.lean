import Mathlib.Data.List.Induction
import PoolArbiter.Quality

/-!
# The service level without the emergency mode

The load factor calls for level three at most. A violation of the service limit
calls for one level more than the current one, up to the greatest level, so it
raises level three to level four although the emergency mode is off.
`QualityTracker.level_le_three_iff` says that this is the only way.
-/

namespace PoolArbiter

/-- What a round shows to the tracker of service quality. -/
structure Observation where
  backlog : Nat
  active : Nat
  total : Nat
  deriving DecidableEq, Repr

namespace QualityTracker

/-- Whether an observation makes a violation of the service limit. -/
def Violates (tracker : QualityTracker) (observation : Observation) : Prop :=
  (tracker.countStreak observation.backlog).2 = true

instance (tracker : QualityTracker) (observation : Observation) :
    Decidable (tracker.Violates observation) :=
  inferInstanceAs (Decidable (_ = true))

/-- The tracker after a round outside the emergency mode. -/
def calm (tracker : QualityTracker) (observation : Observation) : QualityTracker :=
  tracker.observe observation.backlog observation.active observation.total false

/-- The tracker after several rounds outside the emergency mode. -/
def afterCalm (tracker : QualityTracker) (observations : List Observation) : QualityTracker :=
  observations.foldl calm tracker

variable {tracker : QualityTracker} {observation : Observation}

/-- The load alone asks for no more than level 3. -/
theorem band_le_three (loadFactor : Float) : band loadFactor ≤ 3 := by
  unfold band
  split
  · omega
  · split
    · omega
    · split <;> omega

/-- No target exceeds the greatest level. -/
theorem target_le (level : Nat) (loadFactor : Float) (violated emergency : Bool) :
    target level loadFactor violated emergency ≤ greatestLevel := by
  unfold target
  split
  · exact Nat.le_refl _
  · split
    · exact Nat.min_le_right _ _
    · exact Nat.le_succ_of_le (band_le_three loadFactor)

/-- Without a violation the level goes one step towards the band of the load. -/
theorem level_calm_of_no_violation (calmed : tracker.state.level ≤ 3)
    (within : ¬ tracker.Violates observation) : (tracker.calm observation).state.level ≤ 3 := by
  have bounded := band_le_three
    (tracker.loadFactor observation.backlog observation.active observation.total)
  unfold Violates at within
  unfold calm observe target
  dsimp only
  rw [if_neg Bool.false_ne_true, if_neg within]
  split
  · omega
  · split <;> omega

/-- A violation raises the level by one, up to the greatest level. -/
theorem level_calm_of_violation (bounded : tracker.state.level < greatestLevel)
    (violates : tracker.Violates observation) :
    (tracker.calm observation).state.level = tracker.state.level + 1 := by
  unfold Violates at violates
  unfold calm observe target
  dsimp only
  rw [if_neg Bool.false_ne_true, if_pos violates, if_pos (by omega)]

/-- A round outside the emergency mode ends above level three exactly if it makes a
violation at level three. -/
theorem level_calm_le_three_iff (calmed : tracker.state.level ≤ 3) :
    (tracker.calm observation).state.level ≤ 3 ↔
      ¬ (tracker.state.level = 3 ∧ tracker.Violates observation) := by
  by_cases violates : tracker.Violates observation
  · rw [level_calm_of_violation (Nat.lt_succ_of_le calmed) violates]
    simp only [violates, and_true]
    omega
  · simp only [violates, and_false, not_false_eq_true, iff_true]
    exact level_calm_of_no_violation calmed violates

/-- Outside the emergency mode the level stays at three or below throughout exactly
if no round makes a violation at level three. -/
theorem level_le_three_iff (settings : QualitySettings) (queueCapacity : Nat)
    (observations : List Observation) :
    (∀ seen, seen <+: observations →
      ((fresh settings queueCapacity).afterCalm seen).state.level ≤ 3) ↔
      ∀ seen observation, seen ++ [observation] <+: observations →
        ¬ (((fresh settings queueCapacity).afterCalm seen).state.level = 3 ∧
          ((fresh settings queueCapacity).afterCalm seen).Violates observation) := by
  have next : ∀ seen observation,
      (fresh settings queueCapacity).afterCalm (seen ++ [observation]) =
        ((fresh settings queueCapacity).afterCalm seen).calm observation := by
    intro seen observation
    simp [afterCalm]
  constructor
  · intro low seen observation started
    have before := low seen ((List.prefix_append seen [observation]).trans started)
    rw [← level_calm_le_three_iff before, ← next]
    exact low _ started
  · intro spared seen
    induction seen using List.reverseRecOn with
    | nil =>
        intro _
        exact Nat.zero_le 3
    | append_singleton earlier observation inductionHypothesis =>
        intro started
        have before := inductionHypothesis
          ((List.prefix_append earlier [observation]).trans started)
        rw [next, level_calm_le_three_iff before]
        exact spared earlier observation started

/-- Four rounds over the limit, each a violation, reach level four. -/
theorem not_level_le_three :
    ¬ ∀ (settings : QualitySettings) (queueCapacity : Nat) (observations : List Observation),
      ((fresh settings queueCapacity).afterCalm observations).state.level ≤ 3 := by
  intro low
  have reached : ((fresh { slaBacklog := 0, slaWindowRounds := 1 } 8).afterCalm
      (List.replicate 4 ⟨1, 0, 1⟩)).state.level = 4 := by
    decide +kernel
  have bounded := low { slaBacklog := 0, slaWindowRounds := 1 } 8 (List.replicate 4 ⟨1, 0, 1⟩)
  rw [reached] at bounded
  omega

end QualityTracker

end PoolArbiter
