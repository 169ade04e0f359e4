import PoolArbiter.Proofs.Starvation.Schedule

/-!
# What the guard assures

A set of tiers that fits into the rest of the window, never grows and loses a tier in every
round that it fills is left by each of its tiers before the window ends. If nothing arrives
in an empty tier, the starved tiers are such a set; in the last five rounds of a window with
enough slack the unserved tiers are. A tier leaves the first set by service or by withdrawals,
and the second by service alone.

All of this rests on the sum of the starved tiers and the slack. As long as four tiers and the
slack add up to a word, the guard keeps what it assures; with a greater slack it does not
(`assured_iff`).
-/

namespace PoolArbiter

namespace AdmissionQueues

section Rounds

/-- The queues after several rounds. -/
def closeAll (queues : AdmissionQueues) (schedule : List (List QueueAction)) : AdmissionQueues :=
  schedule.foldl close queues

variable {queues : AdmissionQueues} {tier : Tier}

/-- The later rounds are those after the earlier ones are closed. -/
theorem drop_rounds (queues : AdmissionQueues) (schedule : List (List QueueAction))
    (count : Nat) :
    (queues.rounds schedule).drop count =
      (queues.closeAll (schedule.take count)).rounds (schedule.drop count) := by
  induction count generalizing queues schedule with
  | zero => rfl
  | succ count inductionHypothesis =>
      cases schedule with
      | nil => rfl
      | cons actions later => exact inductionHypothesis (queues.close actions) later

/-- Actions leave the window and the place in it alone. -/
theorem place_foldl_act (queues : AdmissionQueues) (actions : List QueueAction) :
    (actions.foldl act queues).guard.window = queues.guard.window ∧
      (actions.foldl act queues).guard.roundInWindow = queues.guard.roundInWindow := by
  induction actions generalizing queues with
  | nil => exact ⟨rfl, rfl⟩
  | cons action rest inductionHypothesis =>
      obtain ⟨window, place⟩ := Move.place_next ⟨queues, action⟩
      obtain ⟨windowLater, placeLater⟩ := inductionHypothesis (queues.act action)
      exact ⟨windowLater.trans window, placeLater.trans place⟩

/-- In the middle of a window the guard keeps its marks and has one round less. -/
theorem advance_of_left (left : 1 < queues.roundsLeft) :
    queues.advance false =
      { queues with
        guard := { queues.guard with roundInWindow := queues.guard.roundInWindow + 1 } } := by
  unfold roundsLeft at left
  unfold advance
  dsimp only
  rw [StarvationGuard.advance_of_open (by omega)]
  rfl

/-- Actions leave the rounds alone that are left. -/
theorem roundsLeft_foldl_act (queues : AdmissionQueues) (actions : List QueueAction) :
    (actions.foldl act queues).roundsLeft = queues.roundsLeft := by
  obtain ⟨window, place⟩ := place_foldl_act queues actions
  rw [roundsLeft, window, place, roundsLeft]

/-- A round within a window leaves one round less. -/
theorem roundsLeft_close (left : 1 < queues.roundsLeft) (actions : List QueueAction) :
    (queues.close actions).roundsLeft + 1 = queues.roundsLeft := by
  have same := roundsLeft_foldl_act queues actions
  rw [close, advance_of_left (by rwa [same]), ← same]
  unfold roundsLeft at same left ⊢
  dsimp only
  omega

/-- Rounds within a window leave as many rounds less. -/
theorem roundsLeft_closeAll {schedule : List (List QueueAction)}
    (inside : schedule.length < queues.roundsLeft) :
    (queues.closeAll schedule).roundsLeft + schedule.length = queues.roundsLeft := by
  induction schedule generalizing queues with
  | nil => rfl
  | cons actions later inductionHypothesis =>
      rw [List.length_cons] at inside ⊢
      have step : (queues.close actions).roundsLeft + 1 = queues.roundsLeft :=
        roundsLeft_close (by omega) actions
      have rest : ((queues.close actions).closeAll later).roundsLeft + later.length =
          (queues.close actions).roundsLeft :=
        inductionHypothesis (by omega)
      rw [← step, ← rest]
      exact (Nat.add_assoc _ _ _).symm

/-- Closing a round marks no tier. -/
theorem unserved_advance (unserved : queues.guard.serviced.get tier = false) :
    (queues.advance false).guard.serviced.get tier = false := by
  by_cases isOpen : queues.guard.roundInWindow + 1 < queues.guard.window
  · have kept := StarvationGuard.advance_of_open isOpen
    exact (congrArg (·.serviced.get tier) kept).trans unserved
  · have restarted := StarvationGuard.advance_of_closed isOpen
    exact (congrArg (·.serviced.get tier) restarted).trans (PerTier.get_tabulate _ _)

/-- A tier that no move serves stays unserved. -/
theorem unserved_foldl_act {actions : List QueueAction}
    (unserved : queues.guard.serviced.get tier = false)
    (none : ∀ move ∈ queues.moves actions, ¬ move.Serves tier) :
    (actions.foldl act queues).guard.serviced.get tier = false := by
  induction actions generalizing queues with
  | nil => exact unserved
  | cons action rest inductionHypothesis =>
      obtain ⟨noneHere, noneLater⟩ := List.forall_mem_cons.1 none
      refine inductionHypothesis ?_ noneLater
      have marks := (Move.serviced_next ⟨queues, action⟩ tier).not
      rw [← ne_eq, ← Bool.eq_false_iff] at marks
      exact marks.2 (by simp [unserved, noneHere])

/-- A tier that no move serves stays unserved. -/
theorem unserved_closeAll {schedule : List (List QueueAction)}
    (unserved : queues.guard.serviced.get tier = false)
    (none : ∀ round ∈ queues.rounds schedule, ∀ move ∈ round, ¬ move.Serves tier)
    (count : Nat) :
    (queues.closeAll (schedule.take count)).guard.serviced.get tier = false := by
  induction count generalizing queues schedule with
  | zero => exact unserved
  | succ count inductionHypothesis =>
      cases schedule with
      | nil => exact unserved
      | cons actions later =>
          obtain ⟨noneHere, noneLater⟩ := List.forall_mem_cons.1 none
          exact inductionHypothesis
            (unserved_advance (unserved_foldl_act unserved noneHere)) noneLater

end Rounds

section Shrinking

variable (view : AdmissionQueues → Finset Tier) (tier : Tier)

/-- A move takes nothing into a set of tiers, and a pop takes a tier out of it if there are
as many of them as rounds are left. -/
structure Shrinks (move : Move) : Prop where
  subset : view move.next ⊆ view move.queues
  pressed : tier ∈ view move.queues → move.Pops →
    (view move.queues).card = move.queues.roundsLeft →
      (view move.next).card < (view move.queues).card

/-- A move takes a tier out of a set. -/
def Leaves (move : Move) : Prop :=
  tier ∈ view move.queues ∧ tier ∉ view move.next

variable {view tier} {queues : AdmissionQueues}

/-- A set of unserved tiers gets smaller when one of them is served. -/
theorem card_lt_of_serves {move : Move}
    (unserved : ∀ queues, ∀ tier ∈ view queues, queues.guard.serviced.get tier = false)
    (subset : view move.next ⊆ view move.queues) (member : tier ∈ view move.queues)
    (serves : move.Serves tier) : (view move.next).card < (view move.queues).card := by
  have gone : tier ∉ view move.next := by
    intro present
    have marked := (Move.serviced_next move tier).2 (.inr serves)
    rw [unserved _ _ present] at marked
    cases marked
  exact Finset.card_lt_card ((Finset.ssubset_iff_of_subset subset).2 ⟨tier, member, gone⟩)

/-- A round with a pop leaves a set smaller than the rounds that were left, unless the tier
leaves it. -/
theorem card_lt_of_moves {actions : List QueueAction} (member : tier ∈ view queues)
    (few : (view queues).card ≤ queues.roundsLeft)
    (shrinks : ∀ move ∈ queues.moves actions, Shrinks view tier move)
    (stays : ∀ move ∈ queues.moves actions, ¬ Leaves view tier move) :
    tier ∈ view (actions.foldl act queues) ∧
      (view (actions.foldl act queues)).card ≤ (view queues).card ∧
      ((∃ move ∈ queues.moves actions, move.Pops) →
        (view (actions.foldl act queues)).card < queues.roundsLeft) := by
  induction actions generalizing queues with
  | nil => exact ⟨member, Nat.le_refl _, fun ⟨_, present, _⟩ => nomatch present⟩
  | cons action rest inductionHypothesis =>
      let move : Move := ⟨queues, action⟩
      obtain ⟨shrinksHere, shrinksLater⟩ := List.forall_mem_cons.1 shrinks
      obtain ⟨staysHere, staysLater⟩ := List.forall_mem_cons.1 stays
      have memberNext : tier ∈ view move.next := by
        by_contra gone
        exact staysHere ⟨member, gone⟩
      have fewer : (view move.next).card ≤ (view queues).card :=
        Finset.card_le_card shrinksHere.subset
      have same : move.next.roundsLeft = queues.roundsLeft :=
        roundsLeft_foldl_act queues [action]
      obtain ⟨memberLast, fewerLast, popsLast⟩ :=
        inductionHypothesis memberNext (by omega) shrinksLater staysLater
      refine ⟨memberLast, fewerLast.trans fewer, ?_⟩
      rintro ⟨popping, present, pops⟩
      rcases List.mem_cons.1 present with rfl | later
      · have fewerHere : (view move.next).card < queues.roundsLeft := by
          rcases Nat.lt_or_eq_of_le few with room | full
          · omega
          · have fewer := shrinksHere.pressed member pops full
            exact Nat.lt_of_lt_of_le fewer few
        exact Nat.lt_of_le_of_lt fewerLast fewerHere
      · exact same ▸ popsLast ⟨popping, later, pops⟩

variable (view)

/-- A tier leaves a set that fits into the window and shrinks, before the window ends. -/
theorem exists_leaves {schedule : List (List QueueAction)}
    (whole : schedule.length = queues.roundsLeft) (member : tier ∈ view queues)
    (few : (view queues).card ≤ queues.roundsLeft)
    (busy : ∀ round ∈ queues.rounds schedule, ∃ move ∈ round, move.Pops)
    (shrinks : ∀ round ∈ queues.rounds schedule, ∀ move ∈ round, Shrinks view tier move)
    (kept : ∀ closing : AdmissionQueues, 1 < closing.roundsLeft →
      view (closing.advance false) = view closing) :
    ∃ round ∈ queues.rounds schedule, ∃ move ∈ round, Leaves view tier move := by
  induction schedule generalizing queues with
  | nil =>
      have some := Finset.card_pos.2 ⟨tier, member⟩
      rw [List.length_nil] at whole
      omega
  | cons actions later inductionHypothesis =>
      obtain ⟨busyHere, busyLater⟩ := List.forall_mem_cons.1 busy
      obtain ⟨shrinksHere, shrinksLater⟩ := List.forall_mem_cons.1 shrinks
      by_cases leaves : ∃ move ∈ queues.moves actions, Leaves view tier move
      · exact ⟨_, List.mem_cons_self, leaves⟩
      have stays : ∀ move ∈ queues.moves actions, ¬ Leaves view tier move :=
        fun move present left => leaves ⟨move, present, left⟩
      obtain ⟨memberLast, _, popsLast⟩ := card_lt_of_moves member few shrinksHere stays
      have fewer := popsLast busyHere
      -- The tier itself takes up a round, so this was not the last one.
      have left : 1 < queues.roundsLeft :=
        Nat.lt_of_le_of_lt (Finset.card_pos.2 ⟨tier, memberLast⟩) fewer
      have same : view (queues.close actions) = view (actions.foldl act queues) :=
        kept _ (by rwa [roundsLeft_foldl_act])
      have next := roundsLeft_close left actions
      rw [List.length_cons] at whole
      have memberNext : tier ∈ view (queues.close actions) := same ▸ memberLast
      have fewNext : (view (queues.close actions)).card ≤ (queues.close actions).roundsLeft := by
        rw [same]
        omega
      obtain ⟨round, present, found⟩ :=
        inductionHypothesis (by omega) memberNext fewNext busyLater shrinksLater
      exact ⟨round, List.mem_cons_of_mem _ present, found⟩

end Shrinking

section Conclusions

variable {queues : AdmissionQueues} {tier : Tier} {schedule : List (List QueueAction)}

/-- Within a window a new round starves no tier and feeds none. -/
theorem starvedTiers_advance (left : 1 < queues.roundsLeft) :
    (queues.advance false).starvedTiers = queues.starvedTiers := by
  rw [advance_of_left left]
  rfl

/-- Within a window a new round marks no tier and clears no mark. -/
theorem unservedTiers_advance (left : 1 < queues.roundsLeft) :
    (queues.advance false).unservedTiers = queues.unservedTiers := by
  rw [advance_of_left left]
  rfl

/-- If nothing arrives in an empty tier that was not served, the starved tiers shrink. -/
theorem shrinks_starvedTiers {move : Move} (calm : move.IsCalm)
    (word : move.queues.guard.slack + 4 ≤ Binary64.greatestWord) :
    Shrinks starvedTiers tier move where
  subset := Move.starvedTiers_next_subset calm
  pressed := by
    intro starved pops full
    obtain ⟨served, member, serves⟩ := Move.exists_serves_starved pops starved word (by omega)
    exact card_lt_of_serves (fun _ _ present => (mem_starvedTiers.1 present).2)
      (Move.starvedTiers_next_subset calm) member serves

/-- With enough slack for the rest of the window, the unserved tiers shrink while one of
them waits. -/
theorem shrinks_unservedTiers {move : Move}
    (word : move.queues.guard.slack + 4 ≤ Binary64.greatestWord)
    (slack : move.queues.roundsLeft ≤ 1 + move.queues.guard.slack)
    (waits : move.queues.guard.serviced.get tier = true ∨ 0 < move.queues.depth tier) :
    Shrinks unservedTiers tier move where
  subset := move.unservedTiers_next_subset
  pressed := by
    intro unserved pops _
    rw [mem_unservedTiers] at unserved
    have starved : tier ∈ move.queues.starvedTiers :=
      mem_starvedTiers.2 ⟨waits.resolve_left (by simp [unserved]), unserved⟩
    have some := Finset.card_pos.2 ⟨tier, starved⟩
    obtain ⟨served, member, serves⟩ := Move.exists_serves_starved pops starved word (by omega)
    exact card_lt_of_serves (fun _ _ => mem_unservedTiers.1) move.unservedTiers_next_subset
      (mem_unservedTiers.2 (mem_starvedTiers.1 member).2) serves

/-- The rounds of a window have no more rounds left than the first of them. -/
theorem roundsLeft_le_of_rounds (inside : schedule.length ≤ queues.roundsLeft) :
    ∀ round ∈ queues.rounds schedule, ∀ move ∈ round,
      move.queues.roundsLeft ≤ queues.roundsLeft := by
  have within : ∀ (actions : List QueueAction) (queues : AdmissionQueues),
      ∀ move ∈ queues.moves actions, move.queues.roundsLeft = queues.roundsLeft := by
    intro actions
    induction actions with
    | nil => simp [moves]
    | cons action rest inductionHypothesis =>
        intro queues move present
        rcases List.mem_cons.1 present with rfl | later
        · rfl
        · exact (inductionHypothesis _ move later).trans (roundsLeft_foldl_act queues [action])
  induction schedule generalizing queues with
  | nil => simp [rounds]
  | cons actions later inductionHypothesis =>
      intro round present move member
      rcases List.mem_cons.1 present with rfl | following
      · exact (within actions queues move member).le
      · have another : 0 < later.length := by
          cases later with
          | nil => cases following
          | cons => exact Nat.succ_pos _
        rw [List.length_cons] at inside
        have next : (queues.close actions).roundsLeft + 1 = queues.roundsLeft :=
          roundsLeft_close (by omega) actions
        have below : move.queues.roundsLeft ≤ (queues.close actions).roundsLeft :=
          inductionHypothesis (by omega) round following move member
        omega

/-- The slack of every move leaves room for four tiers in a word. -/
def Moderate (rounds : List (List Move)) : Prop :=
  ∀ round ∈ rounds, ∀ move ∈ round, move.queues.guard.slack + 4 ≤ Binary64.greatestWord

/-- A full window of rounds, each with at least one pop. -/
structure Fills (queues : AdmissionQueues) (schedule : List (List QueueAction)) : Prop where
  opens : queues.Opens
  whole : schedule.length = queues.guard.window
  busy : ∀ round ∈ queues.rounds schedule, ∃ move ∈ round, move.Pops

/-- A schedule that fills a window has all of its rounds left. -/
theorem Fills.roundsLeft (fills : queues.Fills schedule) :
    queues.roundsLeft = queues.guard.window := by
  rw [AdmissionQueues.roundsLeft, fills.opens.place, Nat.sub_zero]

/-- In a window without arrivals in empty tiers, a tier that waits is served or emptied. -/
theorem Fills.exists_serves_or_empties (fills : queues.Fills schedule)
    (moderate : Moderate (queues.rounds schedule))
    (few : (Tier.all.countP fun tier => 0 < queues.depth tier) ≤ queues.guard.window)
    (calm : ∀ round ∈ queues.rounds schedule, ∀ move ∈ round, move.IsCalm)
    (waits : 0 < queues.depth tier) :
    ∃ round ∈ queues.rounds schedule, ∃ move ∈ round, move.Serves tier ∨ move.Empties tier := by
  have fits : queues.starvedTiers.card ≤ queues.roundsLeft := by
    have same : queues.guard.starved queues.depths =
        Tier.all.filter fun tier => 0 < queues.depth tier := by
      simp [StarvationGuard.starved, fills.opens.unserved]
    rw [card_starvedTiers, fills.roundsLeft, same, ← List.countP_eq_length_filter]
    exact few
  obtain ⟨round, present, move, member, starved, gone⟩ :=
    exists_leaves starvedTiers (fills.whole.trans fills.roundsLeft.symm)
      (mem_starvedTiers.2 ⟨waits, fills.opens.unserved tier⟩) fits fills.busy
      (fun round present move member => shrinks_starvedTiers (calm round present move member)
        (moderate round present move member))
      (fun _ => starvedTiers_advance)
  exact ⟨round, present, move, member, (Move.starved_next starved).resolve_left gone⟩

/-- A tier that waits until it is served is served in the rest of the window if the guard is
patient enough for it and the unserved tiers fit into it. -/
theorem exists_serves_of_patient (whole : schedule.length = queues.roundsLeft)
    (few : queues.unservedTiers.card ≤ queues.roundsLeft)
    (unserved : queues.guard.serviced.get tier = false)
    (busy : ∀ round ∈ queues.rounds schedule, ∃ move ∈ round, move.Pops)
    (moderate : Moderate (queues.rounds schedule))
    (patient : ∀ round ∈ queues.rounds schedule, ∀ move ∈ round,
      queues.roundsLeft ≤ 1 + move.queues.guard.slack)
    (waits : ∀ round ∈ queues.rounds schedule, ∀ move ∈ round,
      move.queues.guard.serviced.get tier = true ∨ 0 < move.queues.depth tier) :
    ∃ round ∈ queues.rounds schedule, ∃ move ∈ round, move.Serves tier := by
  have near := roundsLeft_le_of_rounds whole.le
  obtain ⟨round, present, move, member, lacking, gone⟩ :=
    exists_leaves unservedTiers whole (mem_unservedTiers.2 unserved) few busy
      (fun round present move member => shrinks_unservedTiers
        (moderate round present move member)
        ((near round present move member).trans (patient round present move member))
        (waits round present move member))
      (fun _ => unservedTiers_advance)
  rw [mem_unservedTiers] at lacking gone
  have marked := (Move.serviced_next move tier).1 (by simpa using gone)
  rw [lacking] at marked
  exact ⟨round, present, move, member, marked.resolve_left Bool.false_ne_true⟩

/-- A tier that waits in the last five rounds of a window is served in the window if the
guard is patient enough then. -/
theorem Fills.exists_serves (fills : queues.Fills schedule)
    (moderate : Moderate (queues.rounds schedule)) (long : 5 ≤ queues.guard.window)
    (slack : ∀ round ∈ (queues.rounds schedule).drop (queues.guard.window - 5),
      ∀ move ∈ round, 4 ≤ move.queues.guard.slack)
    (waits : ∀ round ∈ (queues.rounds schedule).drop (queues.guard.window - 5),
      ∀ move ∈ round, move.queues.guard.serviced.get tier = true ∨ 0 < move.queues.depth tier) :
    ∃ round ∈ queues.rounds schedule, ∃ move ∈ round, move.Serves tier := by
  by_contra unserved
  have none : ∀ round ∈ queues.rounds schedule, ∀ move ∈ round, ¬ move.Serves tier :=
    fun round present move member serves => unserved ⟨round, present, move, member, serves⟩
  have left := fills.roundsLeft
  have whole := fills.whole
  have lastUnserved :=
    unserved_closeAll (fills.opens.unserved tier) none (queues.guard.window - 5)
  have five : (queues.closeAll (schedule.take (queues.guard.window - 5))).roundsLeft = 5 := by
    have taken : (schedule.take (queues.guard.window - 5)).length = queues.guard.window - 5 := by
      rw [List.length_take]
      omega
    have rest := roundsLeft_closeAll (taken.trans_lt (by omega) : _ < queues.roundsLeft)
    omega
  have length : (schedule.drop (queues.guard.window - 5)).length = 5 := by
    rw [List.length_drop]
    omega
  have within : ∀ round ∈ (queues.rounds schedule).drop (queues.guard.window - 5),
      round ∈ queues.rounds schedule := fun _ present => List.mem_of_mem_drop present
  rw [drop_rounds] at slack waits within
  generalize queues.closeAll (schedule.take (queues.guard.window - 5)) = last
    at lastUnserved five slack waits within
  obtain ⟨round, present, move, member, serves⟩ :=
    exists_serves_of_patient (length.trans five.symm)
      (five ▸ Finset.card_filter_le Finset.univ _) lastUnserved
      (fun round present => fills.busy round (within round present))
      (fun round present => moderate round (within round present))
      (fun round present move member => by
        have enough := slack round present move member
        omega)
      waits
  exact none round (within round present) move member serves

/-- What the guard is to assure in a window of rounds. -/
structure Assured (queues : AdmissionQueues) (schedule : List (List QueueAction)) : Prop where
  /-- Where items join only tiers in which others wait or that were served, and no more tiers
  wait at the start than there are rounds, every one of these tiers is served or emptied by a
  withdrawal. -/
  calm : (Tier.all.countP fun tier => 0 < queues.depth tier) ≤ queues.guard.window →
    (∀ round ∈ queues.rounds schedule, ∀ move ∈ round, move.IsCalm) →
    ∀ tier, 0 < queues.depth tier →
      ∃ round ∈ queues.rounds schedule, ∃ move ∈ round, move.Serves tier ∨ move.Empties tier
  /-- Where anything may arrive, a slack of four in the last five rounds serves every tier that
  waits in them. -/
  patient : 5 ≤ queues.guard.window →
    (∀ round ∈ (queues.rounds schedule).drop (queues.guard.window - 5), ∀ move ∈ round,
      4 ≤ move.queues.guard.slack) →
    ∀ tier, (∀ round ∈ (queues.rounds schedule).drop (queues.guard.window - 5), ∀ move ∈ round,
        move.queues.guard.serviced.get tier = true ∨ 0 < move.queues.depth tier) →
      ∃ round ∈ queues.rounds schedule, ∃ move ∈ round, move.Serves tier

/-- Where the sums of the guard stay in words, a schedule that fills a window is assured of
service. -/
theorem Fills.assured (fills : queues.Fills schedule)
    (moderate : Moderate (queues.rounds schedule)) : queues.Assured schedule where
  calm few calm _ waits := fills.exists_serves_or_empties moderate few calm waits
  patient long slack _ waits := fills.exists_serves moderate long slack waits

/-- Six rounds in which critical items keep arriving: the background tier, from which one item
is withdrawn, is served all the same. -/
example :
    let item : WorkId → Tier → WorkItem := fun id tier => ⟨id, tier, ⟨[1]⟩, 0⟩
    let queues := [QueueAction.enqueue (item 1 .critical), .enqueue (item 2 .background),
      .enqueue (item 3 .background), .enqueue (item 4 .low)].foldl act (fresh {} 6 256)
    let schedule : List (List QueueAction) :=
      [[.popNext, .setSlack 4], [.enqueue (item 5 .critical), .popNext, .withdraw 2],
        [.requeue (item 5 .critical), .popNext], [.enqueue (item 6 .critical), .popOldest],
        [.enqueue (item 7 .critical), .popNext, .setSlack 7], [.popNext, .popOldest]]
    (∀ round ∈ queues.rounds schedule, ∀ move ∈ round, move.IsCalm) ∧
      ((queues.rounds schedule).flatten.map (·.next.guard.serviced.get .background)).getLast? =
        some true := by
  decide +kernel

end Conclusions

section Excess

/-- Queues in which an item waits in each tier, and five critical ones in front, at the start of
a window of five rounds. A word does not hold the sum of the slack and four tiers. -/
def overstretchedQueues : AdmissionQueues :=
  let tiers : List Tier := List.replicate 5 .critical ++ [.high, .medium, .low, .background]
  (tiers.zipIdx.foldl (fun queues (tier, place) => queues.act (.enqueue ⟨place, tier, ⟨[1]⟩, 0⟩))
    (fresh {} 5 256)).withSlack (Binary64.greatestWord - 3)

/-- Five rounds that pop the next item. -/
def overstretchedSchedule : List (List QueueAction) :=
  List.replicate 5 [.popNext]

/-- The guard takes the starved tiers for none, and the critical items go first all the time. -/
theorem overstretched_starves :
    overstretchedQueues.Fills overstretchedSchedule ∧
      (∀ round ∈ overstretchedQueues.rounds overstretchedSchedule, ∀ move ∈ round,
        move.queues.guard.slack = Binary64.greatestWord - 3) ∧
      ¬ overstretchedQueues.Assured overstretchedSchedule := by
  have opens : overstretchedQueues.Opens := ⟨by decide +kernel, by decide +kernel⟩
  have whole : overstretchedSchedule.length = overstretchedQueues.guard.window := by
    decide +kernel
  have busy : ∀ round ∈ overstretchedQueues.rounds overstretchedSchedule,
      ∃ move ∈ round, move.Pops := by decide +kernel
  refine ⟨⟨opens, whole, busy⟩, by decide +kernel, fun assured => ?_⟩
  have calm : ∀ round ∈ overstretchedQueues.rounds overstretchedSchedule, ∀ move ∈ round,
      move.IsCalm := by decide +kernel
  have unmarked : ∀ round ∈ overstretchedQueues.rounds overstretchedSchedule, ∀ move ∈ round,
      move.next.guard.serviced.get .background = false ∧ move.action = .popNext := by
    decide +kernel
  obtain ⟨round, present, move, member, serves | ⟨⟨work, asked⟩, _⟩⟩ :=
    assured.calm (by decide +kernel) calm .background (by decide +kernel)
  · have marked := (Move.serviced_next move .background).2 (.inr serves)
    rw [(unmarked round present move member).1] at marked
    cases marked
  · rw [(unmarked round present move member).2] at asked
    cases asked

end Excess

end AdmissionQueues

end PoolArbiter
