import PoolArbiter.Proofs.Starvation.Window

/-!
# Windows of samples

Adaptation keeps a running sum and counts that start anew at the end of each window, and a
bounded record of means. Seen from the samples of all rounds, the windows are the pieces of
one length that they fall into, and `Adaptation.Summarises` says that the running figures are
those of the piece that is not full yet and the record holds the means of the last full ones.

`Adaptation.Decides` says which kind of policy is in force: the one that was chosen for the
last full piece, under the switches of its last round.
-/

namespace PoolArbiter

namespace Recent

variable {α : Type} {record : Recent α} {all : List α}

/-- A record holds the last items of a list, as many as it has room for. -/
def IsTailOf (record : Recent α) (all : List α) : Prop :=
  record.items = all.drop (all.length - record.capacity)

/-- What was pushed last is held, and of the other items as many as before or one less. -/
theorem IsTailOf.push (tail : record.IsTailOf all) (item : α) :
    (record.push item).IsTailOf (all ++ [item]) := by
  have room := record.capacity_pos
  have length := congrArg List.length tail
  rw [List.length_drop] at length
  calc (record.push item).items
      = (all.drop (all.length - record.capacity)).drop
          (record.items.length + 1 - record.capacity) ++ [item] := by rw [Recent.push, ← tail]
    _ = all.drop (all.length + 1 - record.capacity) ++ [item] := by
        rw [List.drop_drop]
        congr 2
        omega
    _ = (all ++ [item]).drop ((all ++ [item]).length - record.capacity) := by
        rw [List.length_append, List.length_singleton,
          List.drop_append_of_le_length (by omega)]

end Recent

section Pieces

variable {α : Type} {length number : Nat} {items : List α} {item : α}

/-- The items of one window: windows of one length follow one another from the first item on. -/
def windowOf (length : Nat) (items : List α) (number : Nat) : List α :=
  (items.drop (number * length)).take length

/-- The items that do not fill a window yet. -/
def unclosed (length : Nat) (items : List α) : List α :=
  items.drop (items.length / length * length)

/-- A full window ends inside the list. -/
theorem end_le_of_lt (inside : number < items.length / length) :
    number * length + length ≤ items.length := by
  calc number * length + length
      = (number + 1) * length := (Nat.succ_mul number length).symm
    _ ≤ items.length / length * length := Nat.mul_le_mul_right length inside
    _ ≤ items.length := Nat.div_mul_le_self _ _

/-- A window that is full has as many items as its length says. -/
theorem length_windowOf (inside : number < items.length / length) :
    (windowOf length items number).length = length := by
  have full := end_le_of_lt inside
  rw [windowOf, List.length_take, List.length_drop]
  omega

/-- A window that is full stays as it is. -/
theorem windowOf_concat (inside : number < items.length / length) (item : α) :
    windowOf length (items ++ [item]) number = windowOf length items number := by
  have full := end_le_of_lt inside
  rw [windowOf, List.drop_append_of_le_length (by omega),
    List.take_append_of_le_length (by rw [List.length_drop]; omega), windowOf]

/-- What no full window covers is the remainder. -/
theorem length_unclosed (length : Nat) (items : List α) :
    (unclosed length items).length = items.length % length := by
  have split := Nat.mod_add_div items.length length
  rw [unclosed, List.length_drop, Nat.mul_comm]
  omega

/-- One more element fills a window exactly if the place in it was the last one. -/
theorem dvd_succ_iff_not_lt (positive : 0 < length) (count : Nat) :
    length ∣ count + 1 ↔ ¬ count % length + 1 < length := by
  rw [Nat.dvd_iff_mod_eq_zero, succ_mod_eq count positive]
  split <;> simp_all

/-- In the middle of a window one more item is not in a full one. -/
theorem unclosed_concat_of_open (isOpen : ¬ length ∣ items.length + 1) (item : α) :
    unclosed length (items ++ [item]) = unclosed length items ++ [item] := by
  rw [unclosed, List.length_append, List.length_singleton, Nat.succ_div_of_not_dvd isOpen,
    List.drop_append_of_le_length (Nat.div_mul_le_self _ _), unclosed]

/-- At the end of a window every item is in a full one. -/
theorem unclosed_concat_of_closed (isClosed : length ∣ items.length + 1) (item : α) :
    unclosed length (items ++ [item]) = [] := by
  rw [unclosed, List.length_append, List.length_singleton, Nat.div_mul_cancel isClosed]
  exact List.drop_eq_nil_of_le (by simp)

/-- The window that an item fills is what had not filled it before, and this item. -/
theorem windowOf_concat_of_closed (positive : 0 < length) (isClosed : length ∣ items.length + 1)
    (item : α) :
    windowOf length (items ++ [item]) (items.length / length) =
      unclosed length items ++ [item] := by
  have last := (dvd_succ_iff_not_lt positive items.length).1 isClosed
  have bounded := Nat.mod_lt items.length positive
  rw [windowOf, List.drop_append_of_le_length (Nat.div_mul_le_self _ _), ← unclosed]
  refine List.take_of_length_le ?_
  rw [List.length_append, length_unclosed, List.length_singleton]
  omega

end Pieces

namespace Adaptation

/-- The mean of samples, added up in their order. -/
def meanOf (samples : List Float) : Float :=
  samples.foldl (· + ·) 0 / Float.ofNat samples.length

/-- The means of the windows that are full, in their order. -/
def means (length : Nat) (samples : List Float) : List Float :=
  (List.range (samples.length / length)).map fun number =>
    meanOf (windowOf length samples number)

section Means

variable {length : Nat} {samples : List Float}

/-- There is one mean for each full window. -/
theorem length_means (length : Nat) (samples : List Float) :
    (means length samples).length = samples.length / length := by
  rw [means, List.length_map, List.length_range]

/-- The windows that are full stay as they are when a sample follows. -/
theorem map_range_concat (sample : Float) :
    ((List.range (samples.length / length)).map fun number =>
      meanOf (windowOf length (samples ++ [sample]) number)) = means length samples :=
  List.map_congr_left fun _ member =>
    congrArg meanOf (windowOf_concat (List.mem_range.1 member) sample)

/-- A sample inside a window adds no mean. -/
theorem means_concat_of_open (isOpen : ¬ length ∣ samples.length + 1) (sample : Float) :
    means length (samples ++ [sample]) = means length samples := by
  rw [means, List.length_append, List.length_singleton, Nat.succ_div_of_not_dvd isOpen,
    map_range_concat]

/-- A sample that fills a window adds its mean. -/
theorem means_concat_of_closed (positive : 0 < length) (isClosed : length ∣ samples.length + 1)
    (sample : Float) :
    means length (samples ++ [sample]) =
      means length samples ++ [meanOf (unclosed length samples ++ [sample])] := by
  rw [means, List.length_append, List.length_singleton, Nat.succ_div_of_dvd isClosed,
    List.range_succ, List.map_append, map_range_concat, List.map_singleton,
    windowOf_concat_of_closed positive isClosed]

end Means

variable {settings : AdaptationSettings} {adaptation : Adaptation} {samples : List Float}

/-- The length of the windows under some settings. -/
def windowLength (settings : AdaptationSettings) : Nat :=
  max 1 settings.windowRounds

/-- A window has at least one round, whatever the settings say. -/
theorem windowLength_pos (settings : AdaptationSettings) : 0 < windowLength settings :=
  Nat.lt_of_lt_of_le Nat.one_pos (Nat.le_max_left 1 _)

/-- The figures of an adaptation are those of the samples that it took. -/
structure Summarises (settings : AdaptationSettings) (samples : List Float)
    (adaptation : Adaptation) : Prop where
  window : adaptation.window = windowLength settings
  /-- The bounds and the weights are as configured. -/
  choose : adaptation.choose = (fresh settings).choose
  policyOf : adaptation.policyOf = (fresh settings).policyOf
  /-- The running figures are those of the window that is not full yet. -/
  place : adaptation.roundsInWindow = (unclosed (windowLength settings) samples).length
  count : adaptation.sampleCount = (unclosed (windowLength settings) samples).length
  sum : adaptation.sampleSum = (unclosed (windowLength settings) samples).foldl (· + ·) 0
  /-- The record holds the last means. -/
  capacity : adaptation.history.capacity = max 1 settings.historyCapacity
  history : adaptation.history.IsTailOf (means (windowLength settings) samples)

/-- A fresh adaptation summarises no samples. -/
theorem summarises_fresh (settings : AdaptationSettings) :
    (fresh settings).Summarises settings [] := by
  constructor <;> simp [fresh, windowLength, unclosed, Recent.ofCapacity, Recent.IsTailOf, means]

namespace Summarises

variable {sample : Float} {policy : Policy} {modes : Modes}

/-- A window ends with the next round exactly if its length divides the number of rounds. -/
theorem isOpen_iff (summarises : adaptation.Summarises settings samples) :
    adaptation.roundsInWindow + 1 < adaptation.window ↔
      ¬ windowLength settings ∣ samples.length + 1 := by
  rw [summarises.place, summarises.window, length_unclosed,
    dvd_succ_iff_not_lt (windowLength_pos settings), not_not]

/-- The running mean is the one of the samples in the window that is not full yet. -/
theorem mean_sample (summarises : adaptation.Summarises settings samples) (sample : Float) :
    (adaptation.sample sample).mean =
      meanOf (unclosed (windowLength settings) samples ++ [sample]) := by
  rw [mean, Adaptation.sample, summarises.sum, summarises.count, meanOf, List.foldl_concat,
    List.length_append, List.length_singleton]

/-- In the middle of a window a round adds its sample and leaves the policy. -/
theorem onRound_of_open (summarises : adaptation.Summarises settings samples)
    (isOpen : ¬ windowLength settings ∣ samples.length + 1) :
    (adaptation.onRound sample policy modes).1.Summarises settings (samples ++ [sample]) ∧
      (adaptation.onRound sample policy modes).2 = none := by
  rw [Adaptation.onRound_of_open (summarises.isOpen_iff.2 isOpen)]
  refine ⟨?_, rfl⟩
  constructor
  case window => exact summarises.window
  case choose => exact summarises.choose
  case policyOf => exact summarises.policyOf
  case place =>
    rw [unclosed_concat_of_open isOpen, List.length_append, ← summarises.place]
    rfl
  case count =>
    rw [unclosed_concat_of_open isOpen, List.length_append, ← summarises.count]
    rfl
  case sum =>
    rw [unclosed_concat_of_open isOpen, List.foldl_concat, ← summarises.sum]
    rfl
  case capacity => exact summarises.capacity
  case history =>
    rw [means_concat_of_open isOpen]
    exact summarises.history

/-- The last round of a window records its mean and chooses the policy for it. A policy of the
same kind stays. -/
theorem onRound_of_closed (summarises : adaptation.Summarises settings samples)
    (isClosed : windowLength settings ∣ samples.length + 1) :
    (adaptation.onRound sample policy modes).1.Summarises settings (samples ++ [sample]) ∧
      (adaptation.onRound sample policy modes).2 =
        (let kind := (fresh settings).choose
          (meanOf (unclosed (windowLength settings) samples ++ [sample])) modes
        if kind = policy.kind then none else some ((fresh settings).policyOf kind)) := by
  have closed : ¬ adaptation.roundsInWindow + 1 < adaptation.window := fun isOpen =>
    summarises.isOpen_iff.1 isOpen isClosed
  constructor
  · rw [Adaptation.onRound_of_closed closed]
    constructor
    case window => exact summarises.window
    case choose => exact summarises.choose
    case policyOf => exact summarises.policyOf
    case place =>
      rw [unclosed_concat_of_closed isClosed]
      rfl
    case count =>
      rw [unclosed_concat_of_closed isClosed]
      rfl
    case sum =>
      rw [unclosed_concat_of_closed isClosed]
      rfl
    case capacity => exact summarises.capacity
    case history =>
      rw [means_concat_of_closed (windowLength_pos settings) isClosed, ← summarises.mean_sample]
      exact summarises.history.push _
  · rw [← summarises.mean_sample, ← summarises.choose, ← summarises.policyOf]
    exact congrArg Prod.snd (if_neg closed)

end Summarises

section Decides

variable {rounds : List (Float × Modes)} {kind : PolicyKind} {sample : Float} {modes : Modes}

/-- The kind of policy in force after some rounds, each with its sample and the switches: the
first kind until a window is full, and then the one that is chosen for the mean of the last full
window under the switches of the last round of it. -/
structure Decides (settings : AdaptationSettings) (rounds : List (Float × Modes))
    (kind : PolicyKind) : Prop where
  early : rounds.length < windowLength settings → kind = .performanceAware
  chosen : windowLength settings ≤ rounds.length → ∀ last,
    rounds[rounds.length / windowLength settings * windowLength settings - 1]? = some last →
      kind = (fresh settings).choose (meanOf (windowOf (windowLength settings) (rounds.map (·.1))
        (rounds.length / windowLength settings - 1))) last.2

/-- Before the first window is full the policy is the initial one. -/
theorem decides_nil (settings : AdaptationSettings) : Decides settings [] .performanceAware where
  early := fun _ => rfl
  chosen := fun enough => absurd enough (windowLength_pos settings).not_ge

/-- In the middle of a window the kind stays. -/
theorem Decides.concat_of_open (decides : Decides settings rounds kind)
    (isOpen : ¬ windowLength settings ∣ rounds.length + 1) (round : Float × Modes) :
    Decides settings (rounds ++ [round]) kind := by
  have positive := windowLength_pos settings
  constructor
  case early =>
    intro few
    rw [List.length_append, List.length_singleton] at few
    exact decides.early (Nat.lt_of_succ_lt few)
  case chosen =>
    intro enough last found
    rw [List.length_append, List.length_singleton] at enough
    rw [List.length_append, List.length_singleton, Nat.succ_div_of_not_dvd isOpen] at found ⊢
    have full : windowLength settings ≤ rounds.length :=
      Nat.le_of_lt_succ (enough.lt_of_ne fun same => isOpen (dvd_of_eq same))
    have windows : 0 < rounds.length / windowLength settings := Nat.div_pos full positive
    have bounded := Nat.div_mul_le_self rounds.length (windowLength settings)
    have inside : rounds.length / windowLength settings * windowLength settings - 1 <
        rounds.length := by omega
    rw [List.getElem?_append_left inside] at found
    rw [List.map_append, List.map_singleton, windowOf_concat (by rw [List.length_map]; omega)]
    exact decides.chosen full last found

/-- The last round of a window decides anew, whatever the kind was. -/
theorem decides_concat_of_closed (isClosed : windowLength settings ∣ rounds.length + 1) :
    Decides settings (rounds ++ [(sample, modes)]) ((fresh settings).choose
      (meanOf (unclosed (windowLength settings) (rounds.map (·.1)) ++ [sample])) modes) := by
  have positive := windowLength_pos settings
  constructor
  case early =>
    intro few
    rw [List.length_append, List.length_singleton] at few
    exact absurd (Nat.le_of_dvd (Nat.succ_pos _) isClosed) few.not_ge
  case chosen =>
    intro _ last found
    rw [List.length_append, List.length_singleton, Nat.div_mul_cancel isClosed,
      Nat.add_sub_cancel, List.getElem?_concat_length] at found
    obtain rfl := Option.some.inj found
    rw [List.length_append, List.length_singleton, Nat.succ_div_of_dvd isClosed,
      Nat.add_sub_cancel, List.map_append, List.map_singleton]
    rw [← List.length_map (·.1)] at isClosed ⊢
    rw [windowOf_concat_of_closed positive isClosed]

end Decides

end Adaptation

end PoolArbiter
