import PoolArbiter.Proofs.Loop.Course

/-!
# What a loop runs, returns and reports

Over every course of a loop its rounds have consecutive numbers (`Loop.Numbered`), what it
returns is told by the lockdown after its rounds and by the stop (`Loop.Returns`), and a
subscriber who stays gets the report of every round (`Loop.Attended`). Each of these is
kept by everything that can happen to a loop; `Loop.stopsAndDelivers` puts them together.
-/

namespace PoolArbiter

namespace Loop

/-- The rounds of a loop have the numbers that follow on its entry, and its controller has
gone through these rounds and no others. -/
structure Numbered (controller : Controller) (loop : Loop) : Prop where
  start : loop.start = controller.round
  rounds : loop.controller.round = controller.round + loop.begun.length
  consecutive : loop.reports.map (·.round) = List.range' (controller.round + 1) loop.begun.length

/-- What a loop returns, by the controllers from which its rounds started and by whether it
took the stop. -/
inductive Returns (stop : Prop) : List Controller → Option (Except Refusal Nat) → Prop where
  | goesOn {begun} (unlocked : ∀ controller ∈ begun, controller.locks = false)
      (untaken : ¬stop) : Returns stop begun none
  | stopped {begun} (unlocked : ∀ controller ∈ begun, controller.locks = false)
      (taken : stop) : Returns stop begun (some (.ok begun.length))
  /-- The last round, and no round before it, ended with the lockdown active. -/
  | locked {earlier last} (unlocked : ∀ controller ∈ earlier, controller.locks = false)
      (locks : last.locks = true) (untaken : ¬stop) :
      Returns stop (earlier ++ [last]) (some (.error .lockdown))

/-- What the subscriber of a loop gets, for whom some reports waited before the loop. -/
structure Attended (happenings : List Happening) (waiting : List RoundReport) (loop : Loop) :
    Prop where
  connected : .meet .unsubscribe ∉ happenings →
    ∃ rest, loop.controller.subscription = .connected rest
  heard : ∀ rest, loop.controller.subscription = .connected rest →
    loop.read ++ rest = waiting ++ loop.reports
  inOrder : loop.read <+: waiting ++ loop.reports

/-- What holds of a loop whatever happens to it. -/
structure Faithful (controller : Controller) (happenings : List Happening) (loop : Loop) :
    Prop where
  numbered : loop.Numbered controller
  returns : Returns (.take .shutdown ∈ happenings) loop.begun loop.ended.result?
  /-- A loop that waits has an answer to each wake-up: to the stop the number of its rounds, and
  to a tick the error, if the round ends with the lockdown active. -/
  answers : loop.ended = .waiting →
    (loop.take .shutdown).ended.result? = some (.ok loop.begun.length) ∧
      (loop.take .tick).ended.result? =
        if loop.controller.locks then some (.error .lockdown) else none
  /-- A subscriber who stays has read, or can read now, what waited before the loop and the
  report of each of its rounds. -/
  delivered : ∀ waiting, controller.subscription = .connected waiting →
    .meet .unsubscribe ∉ happenings →
      loop.read ++ loop.controller.readReports.2 = waiting ++ loop.reports
  /-- Also a subscriber who leaves has read no other reports, none twice and none out of order. -/
  inOrder : ∀ waiting, controller.subscription = .connected waiting →
    loop.read <+: waiting ++ loop.reports

end Loop

namespace Controller

variable {controller : Controller} {traffic : Traffic} {rest : List RoundReport}

/-- Reading takes all waiting reports. -/
theorem readReports_of_connected (connected : controller.subscription = .connected rest) :
    controller.readReports = ({ controller with subscription := .connected [] }, rest) := by
  simp only [readReports, connected]

/-- Others take no reports away, or all that wait. -/
theorem handOut_eq (controller : Controller) (traffic : Traffic) :
    controller.handOut traffic = [] ∨
      controller.subscription = .connected (controller.handOut traffic) := by
  cases traffic with
  | readReports =>
      cases held : controller.subscription with
      | connected waiting =>
          right
          rw [handOut, readReports_of_connected held]
      | none => exact .inl (by simp only [handOut, readReports, held])
      | abandoned => exact .inl (by simp only [handOut, readReports, held])
  | _ => exact .inl rfl

/-- What waits for a subscriber waited before, unless it was taken away. -/
theorem connected_of_meet (connected : (controller.meet traffic).subscription = .connected rest) :
    controller.subscription = .connected (controller.handOut traffic ++ rest) := by
  rw [subscription_meet] at connected
  cases traffic with
  | readReports =>
      cases held : controller.subscription with
      | connected waiting =>
          simp only [readReports_of_connected held, Subscription.connected.injEq] at connected
          rw [handOut, readReports_of_connected held, ← connected, List.append_nil]
      | none => simp [readReports, held] at connected
      | abandoned => simp [readReports, held] at connected
  | unsubscribe =>
      cases held : controller.subscription <;> simp [unsubscribe, held] at connected
  | _ => exact connected

/-- Only the subscriber ends the subscription. -/
theorem connected_meet (stays : traffic ≠ .unsubscribe)
    (connected : controller.subscription = .connected rest) :
    ∃ left, (controller.meet traffic).subscription = .connected left := by
  rw [subscription_meet]
  cases traffic with
  | readReports => exact ⟨[], by rw [readReports_of_connected connected]⟩
  | unsubscribe => exact absurd rfl stays
  | _ => exact ⟨rest, connected⟩

end Controller

namespace Loop

variable {controller : Controller} {happenings : List Happening} {loop : Loop}
  {waiting : List RoundReport}

/-- A tick adds the next number. -/
theorem Numbered.take_tick (numbered : loop.Numbered controller) :
    (loop.take .tick).Numbered controller where
  start := by rw [start_take, numbered.start]
  rounds := by
    rw [controller_take_tick, Controller.round_tick, begun_take_tick, numbered.rounds,
      List.length_append, List.length_singleton, Nat.add_assoc]
  consecutive := by
    rw [reports_take_tick, begun_take_tick, List.map_append, List.map_singleton,
      numbered.consecutive, Controller.number_runRound, numbered.rounds, List.length_append,
      List.length_singleton, List.range'_1_concat, Nat.add_right_comm]

/-- Every course counts its rounds. -/
theorem Course.numbered (course : Course controller happenings loop) :
    loop.Numbered controller := by
  induction course with
  | enter => exact ⟨rfl, rfl, rfl⟩
  | announce _ _ inductionHypothesis =>
      exact ⟨inductionHypothesis.start, inductionHypothesis.rounds,
        inductionHypothesis.consecutive⟩
  | @take _ loop wakeUp _ _ _ inductionHypothesis =>
      cases wakeUp with
      | tick => exact inductionHypothesis.take_tick
      | shutdown =>
          refine ⟨?_, ?_, ?_⟩
          · rw [start_take, inductionHypothesis.start]
          · rw [begun_take_shutdown, controller_take_shutdown, inductionHypothesis.rounds]
          · rw [begun_take_shutdown, reports_take_shutdown, inductionHypothesis.consecutive]
  | meet _ traffic inductionHypothesis =>
      refine ⟨inductionHypothesis.start, ?_, inductionHypothesis.consecutive⟩
      exact (Controller.round_meet _ traffic).trans inductionHypothesis.rounds

/-- The stop is answered with the number of the rounds. -/
theorem Numbered.ended_take_shutdown (numbered : loop.Numbered controller) :
    (loop.take .shutdown).ended = .stopped loop.begun.length := by
  rw [Loop.ended_take_shutdown, numbered.start, numbered.rounds, Nat.add_sub_cancel_left]

/-- A loop that waits has seen no lockdown and no stop. -/
theorem Returns.of_none {stop : Prop} {begun : List Controller}
    (returns : Returns stop begun none) :
    (∀ controller ∈ begun, controller.locks = false) ∧ ¬stop := by
  cases returns with
  | goesOn unlocked untaken => exact ⟨unlocked, untaken⟩

/-- Every course that ends returns the number of its rounds or fails in a lockdown. -/
theorem Course.returns (course : Course controller happenings loop) :
    Returns (.take .shutdown ∈ happenings) loop.begun loop.ended.result? := by
  induction course with
  | enter => exact .goesOn (fun _ => nofun) List.not_mem_nil
  | announce _ _ inductionHypothesis =>
      simpa only [Loop.announce, List.mem_append, List.mem_singleton, reduceCtorEq, or_false]
        using inductionHypothesis
  | meet _ _ inductionHypothesis =>
      simpa only [Loop.meet, List.mem_append, List.mem_singleton, reduceCtorEq, or_false]
        using inductionHypothesis
  | @take happenings loop wakeUp prior waits _ inductionHypothesis =>
      rw [waits] at inductionHypothesis
      obtain ⟨unlocked, untaken⟩ := inductionHypothesis.of_none
      cases wakeUp with
      | shutdown =>
          rw [prior.numbered.ended_take_shutdown, begun_take_shutdown]
          exact .stopped unlocked (List.mem_append_right _ (List.mem_singleton_self _))
      | tick =>
          have stillUntaken : Happening.take .shutdown ∉ happenings ++ [.take .tick] := by
            simpa using untaken
          rw [ended_take_tick, begun_take_tick]
          by_cases locks : loop.controller.locks = true
          · rw [if_pos locks]
            exact .locked unlocked locks stillUntaken
          · rw [if_neg locks]
            refine .goesOn (fun began member => ?_) stillUntaken
            rcases List.mem_append.1 member with earlier | last
            · exact unlocked began earlier
            · obtain rfl := List.mem_singleton.1 last
              exact Bool.eq_false_of_not_eq_true locks

/-- A tick sends the report of its round to a subscriber who is there. -/
theorem Attended.take_tick (attended : loop.Attended happenings waiting) :
    (loop.take .tick).Attended (happenings ++ [.take .tick]) waiting where
  connected := fun stays => by
    obtain ⟨rest, held⟩ := attended.connected (by simpa using stays)
    exact ⟨rest ++ [loop.controller.runRound.2], by
      rw [controller_take_tick, Controller.subscription_tick, held, Subscription.deliver]⟩
  heard := fun rest connected => by
    rw [controller_take_tick, Controller.subscription_tick] at connected
    rw [reports_take_tick, read_take]
    cases held : loop.controller.subscription with
    | connected before =>
        rw [held, Subscription.deliver, Subscription.connected.injEq] at connected
        calc loop.read ++ rest
            = (loop.read ++ before) ++ [loop.controller.runRound.2] := by
              rw [← connected, List.append_assoc]
          _ = (waiting ++ loop.reports) ++ [loop.controller.runRound.2] := by
              rw [attended.heard before held]
          _ = waiting ++ (loop.reports ++ [loop.controller.runRound.2]) :=
              List.append_assoc _ _ _
    | none => simp [held, Subscription.deliver] at connected
    | abandoned => simp [held, Subscription.deliver] at connected
  inOrder := by
    rw [reports_take_tick, read_take, ← List.append_assoc]
    exact attended.inOrder.trans (List.prefix_append _ _)

/-- What others take away is what waits for the subscriber. -/
theorem Attended.meet (attended : loop.Attended happenings waiting) (traffic : Traffic) :
    (loop.meet traffic).Attended (happenings ++ [.meet traffic]) waiting where
  connected := fun stays => by
    have both : Happening.meet .unsubscribe ∉ happenings ∧ traffic ≠ .unsubscribe := by
      simpa [eq_comm] using stays
    obtain ⟨rest, held⟩ := attended.connected both.1
    exact Controller.connected_meet both.2 held
  heard := fun rest connected => by
    have before := attended.heard _ (Controller.connected_of_meet connected)
    rw [reports_meet, ← before]
    exact List.append_assoc _ _ _
  inOrder := by
    rcases loop.controller.handOut_eq traffic with nothing | held
    · have same : (loop.meet traffic).read = loop.read := by
        rw [Loop.meet, nothing, List.append_nil]
      rw [same, reports_meet]
      exact attended.inOrder
    · have all := attended.heard _ held
      exact all ▸ List.prefix_refl _

/-- While the subscriber stays, what it has read and what waits for it are all reports. -/
theorem Course.attended (course : Course controller happenings loop)
    (subscribed : controller.subscription = .connected waiting) :
    loop.Attended happenings waiting := by
  induction course with
  | enter =>
      refine ⟨fun _ => ⟨waiting, subscribed⟩, fun rest connected => ?_, List.nil_prefix⟩
      have same : waiting = rest := Subscription.connected.inj (subscribed.symm.trans connected)
      exact same ▸ (List.append_nil waiting).symm
  | announce _ _ inductionHypothesis =>
      exact ⟨fun stays => inductionHypothesis.connected (by simpa using stays),
        inductionHypothesis.heard, inductionHypothesis.inOrder⟩
  | @take happenings loop wakeUp _ _ _ inductionHypothesis =>
      cases wakeUp with
      | tick => exact inductionHypothesis.take_tick
      | shutdown =>
          refine ⟨fun stays => inductionHypothesis.connected (by simpa using stays), ?_, ?_⟩
          · rw [reports_take_shutdown, read_take, controller_take_shutdown]
            exact inductionHypothesis.heard
          · rw [reports_take_shutdown, read_take]
            exact inductionHypothesis.inOrder
  | meet _ traffic inductionHypothesis => exact inductionHypothesis.meet traffic

/-- Whatever becomes ready, whichever wake-up the loop takes, and whatever others do meanwhile,
a loop runs rounds with consecutive numbers up to the stop or to the first round that ends with
the lockdown active, returns accordingly, and loses no report. `Controller.run` follows such
courses. -/
theorem stopsAndDelivers (controller : Controller) :
    (∀ {happenings : List Happening} {loop : Loop}, Course controller happenings loop →
      loop.Faithful controller happenings) ∧
    ∀ wakeUps, ∃ happenings loop, Course controller happenings loop ∧
      (∀ traffic, .meet traffic ∉ happenings) ∧
      controller.run wakeUps = (loop.controller, loop.ended) := by
  refine ⟨fun {happenings loop} course => ?_, exists_course_of_run controller⟩
  refine ⟨course.numbered, course.returns, fun _ => ⟨?_, ?_⟩, ?_, ?_⟩
  · rw [course.numbered.ended_take_shutdown, Controller.LoopEnd.result?]
  · rw [ended_take_tick]
    split <;> rfl
  · intro waiting subscribed stays
    have attended := course.attended subscribed
    obtain ⟨rest, connected⟩ := attended.connected stays
    rw [Controller.readReports_of_connected connected]
    exact attended.heard rest connected
  · intro waiting subscribed
    exact (course.attended subscribed).inOrder

/-- The subscriber reads after the first round. Then a worker is found tampered with; the stop
and a tick are both ready, the loop takes the tick, and the round ends with the lockdown
active. Its report waits for the subscriber. -/
theorem stopsAndDelivers_at_lockdown :
    let config : Configuration :=
      { pool := { workers := 2 }, security := { lockdownThreshold := 1 } }
    let controller := (Controller.start config).subscribe
    let happenings : List Happening :=
      [.ready .tick, .take .tick, .meet .readReports, .meet (.receive (.health ⟨1, true, 0⟩)),
        .ready .shutdown, .ready .tick, .take .tick]
    let before := ((((((Loop.enter controller).announce .tick).take .tick).meet
      .readReports).meet (.receive (.health ⟨1, true, 0⟩))).announce .shutdown).announce .tick
    let loop := before.take .tick
    Course controller happenings loop ∧ before.ready .shutdown = true ∧
      loop.ended.result? = some (.error .lockdown) ∧ loop.read.map (·.round) = [1] ∧
      loop.controller.readReports.2.map (·.round) = [2] ∧ loop.Faithful controller happenings := by
  intro config controller happenings before loop
  have waits : before.ended = .waiting := by decide +kernel
  have entered : Course controller [.ready .tick] ((Loop.enter controller).announce .tick) :=
    Course.enter.announce .tick
  have first : Course controller [.ready .tick, .take .tick]
      (((Loop.enter controller).announce .tick).take .tick) :=
    entered.take rfl rfl
  have course : Course controller happenings loop :=
    ((((first.meet .readReports).meet (.receive (.health ⟨1, true, 0⟩))).announce
      .shutdown).announce .tick).take waits rfl
  have locked : loop.ended = .locked := by decide +kernel
  refine ⟨course, rfl, ?_, ?_, ?_, (stopsAndDelivers controller).1 course⟩
  · rw [locked, Controller.LoopEnd.result?]
  · decide +kernel
  · decide +kernel

end Loop

end PoolArbiter
