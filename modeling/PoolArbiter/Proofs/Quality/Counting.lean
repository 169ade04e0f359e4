import PoolArbiter.Proofs.Quality.Level
import PoolArbiter.Proofs.Quality.Runs

/-!
# What the tracker of service quality counts

A violation is counted for each full window in a maximal run of rounds over the service
limit, and an escalation for each round that raises the level. `CountsExactly` says so for a
sequence of rounds of any content, with the emergency mode on or off in each of them, and
`QualityTracker.countsExactly` that it holds of every sequence from a fresh tracker.
-/

namespace PoolArbiter

/-- An observation, and whether the emergency mode is on in its round. -/
structure Sighting extends Observation where
  emergency : Bool
  deriving DecidableEq, Repr

/-- Whether more items wait than the service limit allows. -/
def Sighting.isOver (limit : Nat) (sighting : Sighting) : Bool :=
  limit < sighting.backlog

/-- A level that goes one step towards a goal, or stays if it is there. -/
inductive StepsTowards (goal before : Nat) : Nat → Prop where
  | up (below : before < goal) : StepsTowards goal before (before + 1)
  | down (above : goal < before) : StepsTowards goal before (before - 1)
  | stay (there : before = goal) : StepsTowards goal before before

/-- A step towards a goal below a limit stays below it. -/
theorem StepsTowards.le {goal before after limit : Nat} (steps : StepsTowards goal before after)
    (bounded : before ≤ limit) (reachable : goal ≤ limit) : after ≤ limit := by
  cases steps <;> omega

/-- A step goes up exactly if the goal is above. -/
theorem StepsTowards.lt_iff {goal before after : Nat} (steps : StepsTowards goal before after) :
    before < after ↔ before < goal := by
  cases steps <;> omega

namespace QualityTracker

/-- The tracker after a round. -/
def follow (tracker : QualityTracker) (sighting : Sighting) : QualityTracker :=
  tracker.observe sighting.backlog sighting.active sighting.total sighting.emergency

/-- The tracker after a sequence of rounds. -/
def followAll (tracker : QualityTracker) (sightings : List Sighting) : QualityTracker :=
  sightings.foldl follow tracker

/-- The level that a round calls for. -/
def goal (tracker : QualityTracker) (sighting : Sighting) : Nat :=
  target tracker.state.level
    (tracker.loadFactor sighting.backlog sighting.active sighting.total)
    (tracker.countStreak sighting.backlog).2 sighting.emergency

/-- Only the emergency mode and a violation above level two call for the greatest level. -/
theorem goal_eq_greatestLevel_iff (tracker : QualityTracker) (sighting : Sighting) :
    tracker.goal sighting = greatestLevel ↔
      sighting.emergency = true ∨
        (tracker.countStreak sighting.backlog).2 = true ∧ 3 ≤ tracker.state.level := by
  have calm := band_le_three
    (tracker.loadFactor sighting.backlog sighting.active sighting.total)
  unfold goal target greatestLevel
  cases sighting.emergency with
  | true => simp
  | false =>
      cases (tracker.countStreak sighting.backlog).2 with
      | true => simp
      | false =>
          simp only [Bool.false_eq_true, if_false, false_or, false_and, iff_false]
          omega

/-- The level after the first rounds of a sequence. -/
def levelAfter (tracker : QualityTracker) (sightings : List Sighting) (rounds : Nat) : Nat :=
  (tracker.followAll (sightings.take rounds)).state.level

/-- The counts of a tracker are those of the rounds that it saw. -/
structure CountsExactly (settings : QualitySettings) (queueCapacity : Nat)
    (sightings : List Sighting) : Prop where
  /-- In each maximal run of rounds over the limit, every full window is a violation. -/
  violations : ((fresh settings queueCapacity).followAll sightings).state.violations =
    ∑ run ∈ runs (Sighting.isOver settings.slaBacklog) sightings,
      run.length / max 1 settings.slaWindowRounds
  streak : ((fresh settings queueCapacity).followAll sightings).streak <
    max 1 settings.slaWindowRounds
  level_le : ∀ rounds, (fresh settings queueCapacity).levelAfter sightings rounds ≤ 4
  /-- Each round takes the level one step towards the level that it calls for. -/
  steps : ∀ rounds sighting, sightings[rounds]? = some sighting →
    StepsTowards
      (((fresh settings queueCapacity).followAll (sightings.take rounds)).goal sighting)
      ((fresh settings queueCapacity).levelAfter sightings rounds)
      ((fresh settings queueCapacity).levelAfter sightings (rounds + 1))
  /-- An escalation is a round that raises the level. -/
  escalations : ((fresh settings queueCapacity).followAll sightings).state.escalations =
    (List.range sightings.length).countP fun rounds =>
      (fresh settings queueCapacity).levelAfter sightings rounds <
        (fresh settings queueCapacity).levelAfter sightings (rounds + 1)

variable {tracker : QualityTracker} {sightings : List Sighting} {sighting : Sighting}

/-- A further sighting is followed last. -/
theorem followAll_concat (tracker : QualityTracker) (sightings : List Sighting)
    (sighting : Sighting) :
    tracker.followAll (sightings ++ [sighting]) = (tracker.followAll sightings).follow sighting :=
  List.foldl_concat ..

section Round

/-- A round takes the level one step towards the level that it calls for. -/
theorem stepsTowards_follow (tracker : QualityTracker) (sighting : Sighting) :
    StepsTowards (tracker.goal sighting) tracker.state.level
      (tracker.follow sighting).state.level := by
  have next : (tracker.follow sighting).state.level =
      if tracker.state.level < tracker.goal sighting then tracker.state.level + 1
      else if tracker.goal sighting < tracker.state.level then tracker.state.level - 1
      else tracker.state.level := rfl
  rw [next]
  split
  next below => exact .up below
  next notBelow =>
    split
    next above => exact .down above
    next notAbove => exact .stay (by omega)

/-- An escalation is counted if the round calls for a higher level. -/
theorem escalations_follow (tracker : QualityTracker) (sighting : Sighting) :
    (tracker.follow sighting).state.escalations =
      tracker.state.escalations + if tracker.state.level < tracker.goal sighting then 1 else 0 :=
  rfl

/-- A round within the limit ends the streak. -/
theorem follow_of_within (within : sighting.isOver tracker.slaBacklog = false) :
    (tracker.follow sighting).streak = 0 ∧
      (tracker.follow sighting).state.violations = tracker.state.violations := by
  have notOver : ¬ tracker.slaBacklog < sighting.backlog := by simpa [Sighting.isOver] using within
  simp [follow, observe, countStreak, notOver]

/-- A round over the limit makes the streak longer by one, until it fills the window. -/
theorem follow_of_over (exceeds : sighting.isOver tracker.slaBacklog = true) {count : Nat}
    (positive : 0 < tracker.slaWindow) (streak : tracker.streak = count % tracker.slaWindow) :
    (tracker.follow sighting).streak = (count + 1) % tracker.slaWindow ∧
      (tracker.follow sighting).state.violations + count / tracker.slaWindow =
        tracker.state.violations + (count + 1) / tracker.slaWindow := by
  have isOver : tracker.slaBacklog < sighting.backlog := by simpa [Sighting.isOver] using exceeds
  have split := Nat.mod_add_div count tracker.slaWindow
  have bounded := Nat.mod_lt count positive
  by_cases full : tracker.slaWindow ≤ tracker.streak + 1
  · have counted : (tracker.follow sighting).streak = 0 ∧
        (tracker.follow sighting).state.violations = tracker.state.violations + 1 := by
      simp [follow, observe, countStreak, isOver, full]
    obtain ⟨quotient, remainder⟩ :
        (count + 1) / tracker.slaWindow = count / tracker.slaWindow + 1 ∧
          (count + 1) % tracker.slaWindow = 0 := by
      rw [Nat.div_mod_unique positive, Nat.mul_add, Nat.mul_one]
      omega
    rw [counted.1, counted.2, quotient, remainder]
    omega
  · have counted : (tracker.follow sighting).streak = tracker.streak + 1 ∧
        (tracker.follow sighting).state.violations = tracker.state.violations := by
      simp [follow, observe, countStreak, isOver, full]
    obtain ⟨quotient, remainder⟩ :
        (count + 1) / tracker.slaWindow = count / tracker.slaWindow ∧
          (count + 1) % tracker.slaWindow = tracker.streak + 1 := by
      rw [Nat.div_mod_unique positive]
      omega
    rw [counted.1, counted.2, quotient, remainder]
    omega

end Round

section Run

/-- The streak of a tracker is what the rounds over the limit at the end of a sequence leave
over after full windows, and its violations are all the full windows. -/
structure Follows (limit window : Nat) (sightings : List Sighting) (tracker : QualityTracker) :
    Prop where
  slaBacklog : tracker.slaBacklog = limit
  slaWindow : tracker.slaWindow = window
  streak : ∃ count, EndsWith (Sighting.isOver limit) sightings count ∧
    tracker.streak = count % window
  violations : tracker.state.violations = fullWindows (Sighting.isOver limit) window sightings

/-- A tracker that follows some sightings follows the next one as well. -/
theorem Follows.concat {limit window : Nat} (follows : Follows limit window sightings tracker)
    (positive : 0 < window) (sighting : Sighting) :
    Follows limit window (sightings ++ [sighting]) (tracker.follow sighting) := by
  obtain ⟨rfl, rfl, ⟨count, ends, streak⟩, violations⟩ := follows
  by_cases exceeds : sighting.isOver tracker.slaBacklog = true
  · obtain ⟨longer, counted⟩ := follow_of_over exceeds positive streak
    have windows := fullWindows_concat tracker.slaWindow ends exceeds
    exact ⟨rfl, rfl, ⟨count + 1, ends.concat exceeds, longer⟩, by omega⟩
  · have within := Bool.eq_false_of_not_eq_true exceeds
    obtain ⟨ended, counted⟩ := follow_of_within within
    refine ⟨rfl, rfl, ⟨0, .concat_of_fails sightings within, ended.trans (Nat.zero_mod _).symm⟩, ?_⟩
    rw [counted, violations, fullWindows, fullWindows, runs_concat_of_fails sightings within]

/-- Every tracker follows the rounds that it saw. -/
theorem follows_fresh (settings : QualitySettings) (queueCapacity : Nat)
    (sightings : List Sighting) :
    Follows settings.slaBacklog (max 1 settings.slaWindowRounds) sightings
      ((fresh settings queueCapacity).followAll sightings) := by
  induction sightings using List.reverseRecOn with
  | nil => exact ⟨rfl, rfl, ⟨0, .nil, (Nat.zero_mod _).symm⟩, rfl⟩
  | append_singleton earlier sighting inductionHypothesis =>
      rw [followAll_concat]
      exact inductionHypothesis.concat (Nat.le_max_left 1 _) sighting

/-- Later sightings leave earlier levels alone. -/
theorem levelAfter_concat {rounds : Nat} (early : rounds ≤ sightings.length) :
    tracker.levelAfter (sightings ++ [sighting]) rounds = tracker.levelAfter sightings rounds := by
  rw [levelAfter, List.take_append_of_le_length early, levelAfter]

/-- The sighting of a round is followed after those before it. -/
theorem followAll_take_succ {rounds : Nat} (shown : sightings[rounds]? = some sighting) :
    tracker.followAll (sightings.take (rounds + 1)) =
      (tracker.followAll (sightings.take rounds)).follow sighting := by
  rw [List.take_add_one, shown, Option.toList_some, followAll_concat]

/-- Every sighting takes the level a step towards its goal. -/
theorem stepsTowards_levelAfter (tracker : QualityTracker) {rounds : Nat}
    (shown : sightings[rounds]? = some sighting) :
    StepsTowards ((tracker.followAll (sightings.take rounds)).goal sighting)
      (tracker.levelAfter sightings rounds) (tracker.levelAfter sightings (rounds + 1)) := by
  rw [levelAfter, levelAfter, followAll_take_succ shown]
  exact stepsTowards_follow _ _

/-- The level never exceeds the greatest one. -/
theorem levelAfter_le (bounded : tracker.state.level ≤ greatestLevel) (rounds : Nat) :
    tracker.levelAfter sightings rounds ≤ greatestLevel := by
  induction rounds with
  | zero => exact bounded
  | succ rounds inductionHypothesis =>
      cases shown : sightings[rounds]? with
      | none =>
          rwa [levelAfter, List.take_add_one, shown, Option.toList_none, List.append_nil]
      | some sighting =>
          exact (stepsTowards_levelAfter tracker shown).le inductionHypothesis (target_le _ _ _ _)

/-- The escalations of a tracker are the rounds that raised its level. -/
theorem escalations_followAll (tracker : QualityTracker) (sightings : List Sighting) :
    (tracker.followAll sightings).state.escalations =
      tracker.state.escalations +
        (List.range sightings.length).countP fun rounds =>
          tracker.levelAfter sightings rounds < tracker.levelAfter sightings (rounds + 1) := by
  induction sightings using List.reverseRecOn with
  | nil => rfl
  | append_singleton earlier sighting inductionHypothesis =>
      have same : (List.range earlier.length).countP (fun rounds =>
            tracker.levelAfter (earlier ++ [sighting]) rounds <
              tracker.levelAfter (earlier ++ [sighting]) (rounds + 1)) =
          (List.range earlier.length).countP fun rounds =>
            tracker.levelAfter earlier rounds < tracker.levelAfter earlier (rounds + 1) := by
        refine List.countP_congr fun rounds inside => ?_
        have before := List.mem_range.1 inside
        rw [levelAfter_concat (Nat.le_of_lt before), levelAfter_concat before]
      have reached : tracker.levelAfter (earlier ++ [sighting]) earlier.length =
          (tracker.followAll earlier).state.level := by
        rw [levelAfter, List.take_left]
      have steps : StepsTowards ((tracker.followAll earlier).goal sighting)
          (tracker.followAll earlier).state.level
          (tracker.levelAfter (earlier ++ [sighting]) (earlier.length + 1)) := by
        have last := stepsTowards_levelAfter tracker
          (List.getElem?_concat_length (l := earlier) (a := sighting))
        rwa [List.take_left, reached] at last
      rw [followAll_concat, escalations_follow, inductionHypothesis, List.length_append,
        List.length_singleton, List.range_succ, List.countP_append, same, List.countP_singleton,
        Nat.add_assoc]
      simp only [decide_eq_true_eq, reached, steps.lt_iff]

end Run

/-- From a fresh tracker the counts are exact after every sequence of rounds. -/
theorem countsExactly (settings : QualitySettings) (queueCapacity : Nat)
    (sightings : List Sighting) : CountsExactly settings queueCapacity sightings := by
  have follows := follows_fresh settings queueCapacity sightings
  obtain ⟨count, _, streak⟩ := follows.streak
  exact
    { violations := follows.violations
      streak := streak ▸ Nat.mod_lt count (Nat.le_max_left 1 _)
      level_le := levelAfter_le (Nat.zero_le _)
      steps := fun rounds sighting shown => stepsTowards_levelAfter _ shown
      escalations := by rw [escalations_followAll, fresh, Nat.zero_add] }

end QualityTracker

end PoolArbiter
