import Mathlib.Data.List.Induction
import PoolArbiter.Proofs.Thermal.Ceiling

/-!
# The throttle and its hysteresis

A governor is asked for two things, in any order: to take a budget, and to take the
temperature of a round. `Governor.Recomputed` says what one temperature does to the throttle
and to the cap, whatever came before. The ceiling depends on the past, and
`Governor.Remembers` says on which part of it: on the limits that were set since throttling
last began, of which it is the least. `Governor.throttlesWithHysteresis` puts the two
together for every sequence of calls.
-/

namespace PoolArbiter

namespace Governor

/-- What is asked of a governor. -/
inductive Call where
  /-- Take the temperature of a round in which so many workers are at work. -/
  | recompute (active : Nat) (sensor : Option SensorReading)
  | setBudget (watts : Float)

/-- Do what is asked. -/
def perform (governor : Governor) : Call → Governor
  | .recompute active sensor => governor.recompute active sensor
  | .setBudget watts => governor.withBudget watts

/-- The governor after several calls. -/
def after (governor : Governor) (calls : List Call) : Governor :=
  calls.foldl perform governor

/-- The temperature of a round: the one that was read, else the one that the model expects. -/
def temperature (settings : ThermalSettings) (active : Nat) : Option SensorReading → Float
  | some reading => reading.temperature
  | none => settings.ambientC + Float.ofNat active * settings.tempPerWorkerC

/-- The limit that a call sets: above the threshold the workers to be shed, at least one, are
taken off those at work. -/
def Call.limit? (settings : ThermalSettings) : Call → Option Nat
  | .recompute active sensor =>
      if settings.safetyThresholdC < temperature settings active sensor then
        some (active - max 1 (shed settings active (temperature settings active sensor)))
      else
        none
  | .setBudget _ => none

/-- The limits that several calls set. -/
def limits (settings : ThermalSettings) (calls : List Call) : List Nat :=
  calls.filterMap (·.limit? settings)

/-- Throttling last began with the first of these calls: the governor was not throttled before
them, and it was throttled after each of them. -/
structure ThrottledSince (start : Governor) (before during : List Call) : Prop where
  nonempty : during ≠ []
  began : (start.after before).state.throttled = false
  lasted : ∀ seen, seen <+: during → seen ≠ [] →
    (start.after (before ++ seen)).state.throttled = true

/-- What a governor remembers of its calls: a ceiling while it is throttled, and then the least
limit since throttling last began. -/
structure Remembers (start : Governor) (calls : List Call) : Prop where
  unthrottled : (start.after calls).state.throttled = false → (start.after calls).ceiling = none
  throttled : (start.after calls).state.throttled = true →
    ∃ before during, calls = before ++ during ∧ start.ThrottledSince before during ∧
      ∃ ceiling, (start.after calls).ceiling = some ceiling ∧
        (limits start.settings during).min? = some ceiling

/-- What the temperature of a round makes of a governor. -/
structure Recomputed (settings : ThermalSettings) (before : Governor) (active : Nat)
    (sensor : Option SensorReading) (after : Governor) : Prop where
  /-- The throttle starts above the threshold, and it ends below the threshold less the
  hysteresis. -/
  throttled : after.state.throttled = true ↔
    settings.safetyThresholdC < temperature settings active sensor ∨
      before.state.throttled = true ∧
        ¬temperature settings active sensor < settings.safetyThresholdC - settings.hysteresisC
  /-- The budget stays. -/
  budget : after.budget = before.budget
  /-- A throttled governor caps by the budget and by the ceiling, -/
  capped : after.state.throttled = true → ∃ ceiling, after.ceiling = some ceiling ∧
    after.state.activeCap = min after.powerCap ceiling
  /-- any other one by the budget alone. -/
  uncapped : after.state.throttled = false → after.state.activeCap = after.powerCap
  /-- Above the threshold the cap is below the workers at work. -/
  below : settings.safetyThresholdC < temperature settings active sensor → 0 < active →
    after.state.activeCap < active

variable {start governor : Governor} {calls before during : List Call} {call : Call}
  {active : Nat} {sensor : Option SensorReading}

/-- A further call is performed last. -/
theorem after_concat (start : Governor) (calls : List Call) (call : Call) :
    start.after (calls ++ [call]) = (start.after calls).perform call :=
  List.foldl_concat ..

/-- No call changes the settings. -/
theorem settings_perform (governor : Governor) (call : Call) :
    (governor.perform call).settings = governor.settings := by
  cases call <;> rfl

/-- The settings stay the first ones. -/
theorem settings_after (start : Governor) (calls : List Call) :
    (start.after calls).settings = start.settings := by
  induction calls generalizing start with
  | nil => rfl
  | cons call rest inductionHypothesis =>
      rw [after, List.foldl_cons, ← after, inductionHypothesis, settings_perform]

/-- The temperature is the one that the sensor reads, or else the modelled one. -/
theorem temperature_eq (settings : ThermalSettings) (active : Nat)
    (sensor : Option SensorReading) :
    (sensor.getD (model settings active)).temperature = temperature settings active sensor := by
  cases sensor <;> rfl

/-- The temperature of a round does one of three things to the throttle and the ceiling. -/
inductive Turns (governor : Governor) (active : Nat) (sensor : Option SensorReading) :
    Option Nat → Bool → Prop where
  /-- Above the threshold the ceiling falls to a limit. -/
  | falls {limit : Nat}
      (limited : (Call.recompute active sensor).limit? governor.settings = some limit) :
      Turns governor active sensor (some (governor.ceiling.elim limit (min · limit))) true
  /-- A throttled governor is released once it is cool enough. -/
  | ends (unlimited : (Call.recompute active sensor).limit? governor.settings = none)
      (throttled : governor.state.throttled = true)
      (cool : temperature governor.settings active sensor <
        governor.settings.safetyThresholdC - governor.settings.hysteresisC) :
      Turns governor active sensor none false
  /-- Everything stays as it is. -/
  | stays (unlimited : (Call.recompute active sensor).limit? governor.settings = none)
      (notReleased : ¬(governor.state.throttled = true ∧
        temperature governor.settings active sensor <
          governor.settings.safetyThresholdC - governor.settings.hysteresisC)) :
      Turns governor active sensor governor.ceiling governor.state.throttled

section Step

/-- A recomputation sets a limit exactly if it is too hot. -/
theorem limit?_eq_none_iff (settings : ThermalSettings) :
    (Call.recompute active sensor).limit? settings = none ↔
      ¬settings.safetyThresholdC < temperature settings active sensor := by
  simp [Call.limit?]

/-- What a temperature does to the throttle and the ceiling. -/
theorem turns_recompute (governor : Governor) (active : Nat) (sensor : Option SensorReading) :
    governor.Turns active sensor (governor.recompute active sensor).ceiling
      (governor.recompute active sensor).state.throttled := by
  have turned : governor.Turns active sensor
      (governor.throttle active (temperature governor.settings active sensor)).1
      (governor.throttle active (temperature governor.settings active sensor)).2 := by
    unfold throttle
    dsimp only
    split
    next above => exact .falls (if_pos above)
    next notAbove =>
      have unlimited := (limit?_eq_none_iff governor.settings).2 notAbove
      split
      next released =>
        rw [Bool.and_eq_true, decide_eq_true_eq] at released
        exact .ends unlimited released.1 released.2
      next notReleased =>
        rw [Bool.and_eq_true, decide_eq_true_eq] at notReleased
        exact .stays unlimited notReleased
  rw [← temperature_eq] at turned
  exact turned

/-- The cap is what the budget can feed, lowered by the ceiling. -/
theorem activeCap_recompute (governor : Governor) (active : Nat)
    (sensor : Option SensorReading) :
    (governor.recompute active sensor).state.activeCap =
      (governor.recompute active sensor).ceiling.elim governor.powerCap
        (min · governor.powerCap) :=
  rfl

/-- A recomputation leaves the power cap alone. -/
theorem powerCap_recompute (governor : Governor) (active : Nat)
    (sensor : Option SensorReading) :
    (governor.recompute active sensor).powerCap = governor.powerCap :=
  rfl

/-- Above the threshold fewer workers are allowed than are at work. -/
theorem limit_lt {settings : ThermalSettings} {limit : Nat} (working : 0 < active)
    (limited : (Call.recompute active sensor).limit? settings = some limit) :
    limit < active := by
  unfold Call.limit? at limited
  dsimp only at limited
  split at limited
  next =>
    obtain rfl := Option.some.inj limited
    omega
  next => cases limited

end Step

section Past

/-- A further call adds its limit. -/
theorem limits_concat (settings : ThermalSettings) (calls : List Call) (call : Call) :
    limits settings (calls ++ [call]) = limits settings calls ++ (call.limit? settings).toList := by
  rw [limits, List.filterMap_append, ← limits]
  cases limited : call.limit? settings <;> simp [limited]

/-- One more limit lowers the least one to itself. -/
theorem min?_concat {numbers : List Nat} {least : Nat} (found : numbers.min? = some least)
    (number : Nat) : (numbers ++ [number]).min? = some (min least number) := by
  rw [List.min?_eq_some_iff] at found ⊢
  obtain ⟨member, atMost⟩ := found
  refine ⟨?_, fun other listed => ?_⟩
  · rcases Nat.le_total least number with less | more
    · rw [Nat.min_eq_left less]
      exact List.mem_append_left _ member
    · rw [Nat.min_eq_right more]
      exact List.mem_append_right _ List.mem_cons_self
  · rcases List.mem_append.1 listed with earlier | last
    · exact (Nat.min_le_left _ _).trans (atMost other earlier)
    · rw [List.mem_singleton.1 last]
      exact Nat.min_le_right _ _

/-- Throttling that goes on began where it began before. -/
theorem ThrottledSince.concat (since : start.ThrottledSince before during)
    (throttled : (start.after (before ++ during ++ [call])).state.throttled = true) :
    start.ThrottledSince before (during ++ [call]) where
  nonempty := List.append_ne_nil_of_right_ne_nil _ (List.cons_ne_nil _ _)
  began := since.began
  lasted := by
    intro seen isPrefix some
    rcases List.prefix_concat_iff.1 isPrefix with rfl | earlier
    · rwa [← List.append_assoc]
    · exact since.lasted seen earlier some

/-- Throttling begins with a call that finds the governor unthrottled. -/
theorem ThrottledSince.single (began : (start.after calls).state.throttled = false)
    (throttled : (start.after (calls ++ [call])).state.throttled = true) :
    start.ThrottledSince calls [call] where
  nonempty := List.cons_ne_nil _ _
  began := began
  lasted := by
    intro seen isPrefix some
    rw [← List.nil_append [call]] at isPrefix
    rcases List.prefix_concat_iff.1 isPrefix with rfl | earlier
    · exact throttled
    · exact absurd (List.prefix_nil.1 earlier) some

namespace Remembers

/-- A call that sets no limit and leaves the throttle and the ceiling is remembered. -/
theorem keep (remembers : start.Remembers calls)
    (unlimited : call.limit? start.settings = none)
    (ceiling : (start.after (calls ++ [call])).ceiling = (start.after calls).ceiling)
    (throttled : (start.after (calls ++ [call])).state.throttled =
      (start.after calls).state.throttled) : start.Remembers (calls ++ [call]) where
  unthrottled := by
    rw [ceiling, throttled]
    exact remembers.unthrottled
  throttled := by
    intro stays
    obtain ⟨before, during, rfl, since, least, held, isLeast⟩ :=
      remembers.throttled (throttled ▸ stays)
    refine ⟨before, during ++ [call], List.append_assoc .., since.concat stays, least,
      ceiling.trans held, ?_⟩
    rw [limits_concat, unlimited, Option.toList_none, List.append_nil, isLeast]

/-- A call that sets a limit lowers the ceiling to it, or throttling begins there. -/
theorem fall {limit : Nat} (remembers : start.Remembers calls)
    (limited : call.limit? start.settings = some limit)
    (ceiling : (start.after (calls ++ [call])).ceiling =
      some ((start.after calls).ceiling.elim limit (min · limit)))
    (throttled : (start.after (calls ++ [call])).state.throttled = true) :
    start.Remembers (calls ++ [call]) where
  unthrottled := by
    intro released
    rw [throttled] at released
    cases released
  throttled := by
    intro _
    cases earlier : (start.after calls).state.throttled with
    | false =>
        rw [remembers.unthrottled earlier] at ceiling
        refine ⟨calls, [call], rfl, .single earlier throttled, limit, ceiling, ?_⟩
        simp [limits, limited]
    | true =>
        obtain ⟨before, during, rfl, since, least, held, isLeast⟩ := remembers.throttled earlier
        rw [held] at ceiling
        refine ⟨before, during ++ [call], List.append_assoc .., since.concat throttled,
          min least limit, ceiling, ?_⟩
        rw [limits_concat, limited]
        exact min?_concat isLeast limit

/-- A governor that remembers some calls remembers the next one as well. -/
theorem concat (remembers : start.Remembers calls) (call : Call) :
    start.Remembers (calls ++ [call]) := by
  have next := after_concat start calls call
  cases call with
  | setBudget watts => exact remembers.keep rfl (by rw [next]; rfl) (by rw [next]; rfl)
  | recompute active sensor =>
      have turned := turns_recompute (start.after calls) active sensor
      rw [perform] at next
      rw [← next] at turned
      generalize isCeiling : (start.after (calls ++ [_])).ceiling = ceiling at turned
      generalize isThrottled : (start.after (calls ++ [_])).state.throttled = throttled at turned
      cases turned with
      | falls limited =>
          rw [settings_after] at limited
          exact remembers.fall limited isCeiling isThrottled
      | ends unlimited _ _ =>
          refine ⟨fun _ => isCeiling, fun stays => ?_⟩
          rw [isThrottled] at stays
          cases stays
      | stays unlimited _ =>
          rw [settings_after] at unlimited
          exact remembers.keep unlimited isCeiling isThrottled

end Remembers

/-- Whatever is asked of a new governor, it remembers the least limit since throttling last
began. -/
theorem remembers_fresh (settings : ThermalSettings) (poolSize : Nat) (calls : List Call) :
    (fresh settings poolSize).Remembers calls := by
  induction calls using List.reverseRecOn with
  | nil =>
      refine ⟨fun _ => rfl, fun throttled => ?_⟩
      cases throttled
  | append_singleton calls call inductionHypothesis => exact inductionHypothesis.concat call

end Past

section Present

/-- Throttling starts above the threshold and ends below the lower one. -/
theorem Turns.throttled_iff {ceiling : Option Nat} {throttled : Bool}
    (turned : governor.Turns active sensor ceiling throttled) :
    throttled = true ↔
      governor.settings.safetyThresholdC < temperature governor.settings active sensor ∨
        governor.state.throttled = true ∧
          ¬temperature governor.settings active sensor <
            governor.settings.safetyThresholdC - governor.settings.hysteresisC := by
  cases turned with
  | falls limited =>
      refine iff_of_true rfl (.inl ?_)
      by_contra notAbove
      rw [(limit?_eq_none_iff _).2 notAbove] at limited
      cases limited
  | ends unlimited _ cool =>
      refine iff_of_false Bool.false_ne_true ?_
      rintro (above | ⟨_, warm⟩)
      · exact (limit?_eq_none_iff _).1 unlimited above
      · exact warm cool
  | stays unlimited notReleased =>
      constructor
      · exact fun throttled => .inr ⟨throttled, fun cool => notReleased ⟨throttled, cool⟩⟩
      · rintro (above | ⟨throttled, _⟩)
        · exact absurd above ((limit?_eq_none_iff _).1 unlimited)
        · exact throttled

/-- A ceiling never rises while the throttle lasts. -/
theorem Turns.ceiling_le {ceiling : Option Nat} {throttled : Bool} {old : Nat}
    (turned : governor.Turns active sensor ceiling throttled)
    (held : governor.ceiling = some old) (lasts : throttled = true) :
    ∃ new, ceiling = some new ∧ new ≤ old := by
  cases turned with
  | falls _ =>
      rw [held]
      exact ⟨_, rfl, Nat.min_le_left _ _⟩
  | ends => cases lasts
  | stays => exact ⟨old, held, Nat.le_refl _⟩

/-- A throttled governor has a ceiling. -/
theorem Remembers.exists_ceiling (remembers : start.Remembers calls)
    (throttled : (start.after calls).state.throttled = true) :
    ∃ ceiling, (start.after calls).ceiling = some ceiling := by
  obtain ⟨_, _, _, _, ceiling, held, _⟩ := remembers.throttled throttled
  exact ⟨ceiling, held⟩

/-- A governor that remembers its calls throttles and caps by the temperature. -/
theorem Remembers.recomputed (remembers : start.Remembers calls) (active : Nat)
    (sensor : Option SensorReading) :
    Recomputed start.settings (start.after calls) active sensor
      ((start.after calls).recompute active sensor) := by
  have settings := settings_after start calls
  have next := after_concat start calls (.recompute active sensor)
  rw [perform] at next
  have remembersNext := remembers.concat (.recompute active sensor)
  have turned := turns_recompute (start.after calls) active sensor
  constructor
  case throttled => exact settings ▸ turned.throttled_iff
  case budget => rfl
  case capped =>
    intro throttled
    obtain ⟨ceiling, held⟩ := remembersNext.exists_ceiling (next ▸ throttled)
    rw [next] at held
    refine ⟨ceiling, held, ?_⟩
    rw [activeCap_recompute, held, powerCap_recompute]
    exact Nat.min_comm _ _
  case uncapped =>
    intro unthrottled
    have released := remembersNext.unthrottled (next ▸ unthrottled)
    rw [next] at released
    rw [activeCap_recompute, released]
    rfl
  case below =>
    intro above working
    rw [← settings] at above
    rw [activeCap_recompute]
    generalize ((start.after calls).recompute active sensor).ceiling = ceiling at turned
    generalize ((start.after calls).recompute active sensor).state.throttled = throttled at turned
    cases turned with
    | falls limited =>
        have fewer := limit_lt working limited
        refine lt_of_le_of_lt (Nat.min_le_left _ _) (lt_of_le_of_lt ?_ fewer)
        cases (start.after calls).ceiling with
        | none => exact Nat.le_refl _
        | some old => exact Nat.min_le_right _ _
    | ends unlimited => exact absurd above ((limit?_eq_none_iff _).1 unlimited)
    | stays unlimited => exact absurd above ((limit?_eq_none_iff _).1 unlimited)

/-- Budgets leave the throttle and the ceiling. -/
theorem foldl_withBudget_eq (governor : Governor) (budgets : List Float) :
    budgets.foldl withBudget governor =
      { governor with budget := (budgets.foldl withBudget governor).budget } := by
  induction budgets generalizing governor with
  | nil => rfl
  | cons watts rest inductionHypothesis =>
      rw [List.foldl_cons, inductionHypothesis]
      rfl

/-- A governor that is throttled before and after a temperature allows no more workers than
before, unless it was given another budget. -/
theorem activeCap_le_of_capped {first : Governor} {ceiling later : Nat} {budgets : List Float}
    {laterSensor : Option SensorReading} (held : first.ceiling = some ceiling)
    (cap : first.state.activeCap = min first.powerCap ceiling)
    (budget : (budgets.foldl withBudget first).budget = first.budget)
    (lasts : ((budgets.foldl withBudget first).recompute later laterSensor).state.throttled =
      true) :
    ((budgets.foldl withBudget first).recompute later laterSensor).state.activeCap ≤
      first.state.activeCap := by
  have same := foldl_withBudget_eq first budgets
  rw [budget] at same
  rw [same] at lasts ⊢
  obtain ⟨new, heldLater, less⟩ := (turns_recompute first later laterSensor).ceiling_le held lasts
  calc (first.recompute later laterSensor).state.activeCap
      = min new first.powerCap := by rw [activeCap_recompute, heldLater, Option.elim_some]
    _ ≤ min ceiling first.powerCap := min_le_min_right _ less
    _ = first.state.activeCap := by rw [cap, Nat.min_comm]

/-- A new governor that is asked anything in any order throttles above the threshold and until
it is cooler by the hysteresis. Its ceiling is the least limit since throttling last began; it
caps by that and by the budget. So the cap never grows while the throttle lasts under one
budget, and above the threshold it is below the workers at work. -/
theorem throttlesWithHysteresis (settings : ThermalSettings) (poolSize : Nat)
    (calls : List Call) :
    (fresh settings poolSize).Remembers calls ∧
      (∀ active sensor, Recomputed settings ((fresh settings poolSize).after calls) active sensor
        (((fresh settings poolSize).after calls).recompute active sensor)) ∧
      ∀ active sensor (budgets : List Float) later laterSensor,
        let first := ((fresh settings poolSize).after calls).recompute active sensor
        let second := (budgets.foldl withBudget first).recompute later laterSensor
        first.state.throttled = true → second.state.throttled = true →
          second.budget = first.budget → second.state.activeCap ≤ first.state.activeCap := by
  have remembers := remembers_fresh settings poolSize calls
  refine ⟨remembers, remembers.recomputed, ?_⟩
  intro active sensor budgets later laterSensor first second throttled lasts budget
  obtain ⟨ceiling, held, cap⟩ := (remembers.recomputed active sensor).capped throttled
  exact activeCap_le_of_capped held cap budget lasts

/-- Of 280 workers ten are shed at 87 degrees, and the throttle lasts at 82; a reading past all
numbers leaves none, and only 79 degrees release the pool. -/
theorem throttlesWithHysteresis_of_heat_wave :
    let calls : List Call := [.recompute 280 (some ⟨230, 87⟩), .setBudget 200]
    let warm := ((fresh {} 300).after calls).recompute 270 (some ⟨216, 82⟩)
    let scorched := warm.recompute 250 (some ⟨0, 1 / 0⟩)
    (warm.state.throttled, warm.ceiling, warm.state.activeCap) = (true, some 270, 250) ∧
      (scorched.state.throttled, scorched.state.activeCap) = (true, 0) ∧
      (scorched.recompute 0 (some ⟨0, 79⟩)).state.activeCap = 250 ∧
      scorched.state.activeCap ≤ warm.state.activeCap := by
  intro calls warm scorched
  have throttled : warm.state.throttled = true := by decide +kernel
  have lasts : scorched.state.throttled = true := by decide +kernel
  have never := (throttlesWithHysteresis {} 300 calls).2.2 270 (some ⟨216, 82⟩) [] 250
    (some ⟨0, 1 / 0⟩) throttled lasts rfl
  exact ⟨by decide +kernel, by decide +kernel, by decide +kernel, never⟩

end Present

end Governor

/-- In every lifetime the governor is a new one that was asked for budgets and temperatures. -/
theorem Lifetime.exists_calls {config : Configuration} {history : History}
    {controller : Controller} (lifetime : Lifetime config history controller) :
    ∃ calls, controller.governor =
      (Governor.fresh config.thermal config.pool.workers).after calls := by
  refine lifetime.invariant_of_sound (motive := fun controller => ∃ calls, controller.governor =
    (Governor.fresh config.thermal config.pool.workers).after calls) ?_ ?_ ?_
  case refine_1 => exact ⟨[], rfl⟩
  case refine_2 =>
    rintro controller sound ⟨calls, asked⟩
    refine ⟨calls ++ [.recompute controller.vetted.controller.pool.activeCount
      (Snapshot.ofReports controller.feed).sensor], ?_⟩
    rw [sound.governor_runRound, asked, Governor.after_concat]
    rfl
  case refine_3 =>
    rintro controller operation between _ ⟨calls, asked⟩
    have same := congrArg Oversight.governor (controller.oversight_perform operation {})
    cases operation with
    | round => exact absurd rfl between
    | setBudget watts =>
        refine ⟨calls ++ [.setBudget watts], ?_⟩
        rw [Governor.after_concat, ← asked]
        rfl
    | _ => exact ⟨calls, Eq.trans same asked⟩

end PoolArbiter
