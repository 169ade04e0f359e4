import Mathlib.Data.List.TakeWhile
import PoolArbiter.Configuration.Override
import PoolArbiter.Proofs.Configuration.Settings

/-!
# Settings and their variables

`Setting.ownVariable?` says which variable a setting has, and `Environment.chosen?` which of two
variables counts under a profile. One override writes its own setting only (`get_apply`), so all
of them together give every setting the value of its variable (`get_override`), and twice is the
same as once. No two overrides share a variable, whatever the profile (`chosen?_congr`).
-/

namespace PoolArbiter

section Profile

/-- A letter does not vanish in capitals. -/
theorem capital_ne_nil (letter : Char) : capital letter ≠ [] := by
  have table : ∀ entry ∈ longCapitals, entry.2 ≠ [] := by decide
  rw [capital, Ne, List.map_eq_nil_iff, capitalCodes]
  split
  next codes found =>
    obtain ⟨before, after, listed, _⟩ := List.lookup_eq_some_iff.1 found
    exact table (letter.toNat, codes) (by rw [listed]; simp)
  next =>
    split
    · exact List.cons_ne_nil _ _
    · exact List.cons_ne_nil _ _

/-- Only the empty text is empty in capitals. -/
theorem upperCase_eq_empty_iff {text : String} : upperCase text = "" ↔ text = "" := by
  constructor
  · intro empty
    have none : text.toList.flatMap capital = [] := by
      simpa [upperCase] using empty
    cases letters : text.toList with
    | nil => exact String.toList_eq_nil_iff.1 letters
    | cons letter rest =>
        rw [letters, List.flatMap_cons, List.append_eq_nil_iff] at none
        exact absurd none.1 (capital_ne_nil letter)
  · rintro rfl
    rfl

namespace Environment

/-- The text of the variable that counts for a plain name: under a profile the variable with
the profile in capitals and an underscore in front, if it holds something, and otherwise the
plain one, if it holds something. -/
def chosen? (environment : Environment) (name : String) : Option String :=
  match environment.filled? "HASHGRID_PROFILE" with
  | none => environment.filled? name
  | some profile =>
      (environment.filled? (upperCase profile ++ "_" ++ name)).or (environment.filled? name)

variable {environment : Environment}

/-- A variable is read under the profile of the environment. -/
theorem profiled?_eq_chosen? : environment.profiled? environment.profile = environment.chosen? := by
  funext name
  rw [profiled?, profile, chosen?]
  cases given : environment.filled? "HASHGRID_PROFILE" with
  | none => rfl
  | some profile =>
      have filled : profile ≠ "" := by
        rintro rfl
        simp [filled?, Option.filter_eq_some_iff] at given
      rw [Option.getD_some, if_neg]
      rw [String.isEmpty_iff, upperCase_eq_empty_iff]
      exact filled

end Environment

end Profile

namespace Configuration

/-- A variable that sets a setting, and how its text is read. -/
structure Variable (α : Type) where
  name : String
  read : String → Option α

namespace Setting

/-- The variable of a setting, if it has one. -/
def ownVariable? : (setting : Setting) → Option (Variable setting.Value)
  | .workers => some ⟨"HASHGRID_WORKERS", Override.word?⟩
  | .partitionMode => some ⟨"HASHGRID_PARTITION_MODE", Override.truth?⟩
  | .roundIntervalMs => some ⟨"HASHGRID_ROUND_INTERVAL_MS", Override.word?⟩
  | .capacity => some ⟨"HASHGRID_QUEUE_CAPACITY", Override.word?⟩
  | .windowRounds => some ⟨"HASHGRID_ADAPTATION_WINDOW", Override.word?⟩
  | .powerBudgetW => some ⟨"HASHGRID_POWER_BUDGET_W", Override.float?⟩
  | .safetyThresholdC => some ⟨"HASHGRID_THERMAL_THRESHOLD_C", Override.float?⟩
  | .reclaim => some ⟨"HASHGRID_THERMAL_RECLAIM", Override.reclaim?⟩
  | .slaBacklog => some ⟨"HASHGRID_SLA_BACKLOG", Override.word?⟩
  | .lockdownThreshold => some ⟨"HASHGRID_LOCKDOWN_THRESHOLD", Override.halfWord?⟩
  | _ => none

/-- What the variable of a setting sets it to, if its text can be read. -/
def override? (lookup : String → Option String) (setting : Setting) : Option setting.Value :=
  setting.ownVariable?.bind fun own => (lookup own.name).bind own.read

end Setting

end Configuration

namespace Override

section Reading

variable {whole fraction : List Char}

/-- Digits around a point spell a decimal. -/
theorem unsigned?_point (wholeDigits : ∀ letter ∈ whole, letter.isDigit = true)
    (fractionDigits : ∀ letter ∈ fraction, letter.isDigit = true)
    (present : whole ++ fraction ≠ []) :
    Decimal.unsigned? (whole ++ '.' :: fraction) =
      some ⟨Decimal.foldDigits (whole ++ fraction) 0, -(fraction.length : Int)⟩ := by
  have before : (whole ++ '.' :: fraction).takeWhile Char.isDigit = whole := by
    rw [List.takeWhile_append_of_pos wholeDigits]
    exact List.append_nil _
  have after : (whole ++ '.' :: fraction).dropWhile Char.isDigit = '.' :: fraction := by
    rw [List.dropWhile_append_of_pos wholeDigits]
    rfl
  have nonempty : ¬ (whole.isEmpty && fraction.isEmpty) = true := by
    simpa [List.isEmpty_iff] using present
  unfold Decimal.unsigned?
  rw [before, after]
  change (if (whole.isEmpty && (fraction.takeWhile Char.isDigit).isEmpty) = true then none
    else (Decimal.exponent? (fraction.dropWhile Char.isDigit)).map fun exponent =>
      Decimal.mk (Decimal.foldDigits (whole ++ fraction.takeWhile Char.isDigit) 0)
        (exponent - (fraction.takeWhile Char.isDigit).length)) = _
  rw [List.takeWhile_eq_self_iff.2 fractionDigits, List.dropWhile_eq_nil_iff.2 fractionDigits,
    if_neg nonempty]
  simp [Decimal.exponent?]

/-- Digits around a point are read as the float nearest to the decimal that they spell. -/
theorem float?_point (wholeDigits : ∀ letter ∈ whole, letter.isDigit = true)
    (fractionDigits : ∀ letter ∈ fraction, letter.isDigit = true)
    (present : whole ++ fraction ≠ []) :
    float? (String.ofList (whole ++ '.' :: fraction)) =
      some (Decimal.toFloat
        ⟨Decimal.foldDigits (whole ++ fraction) 0, -(fraction.length : Int)⟩) := by
  have unnamed {name : List Char} (pointless : '.' ∉ name) :
      (whole ++ '.' :: fraction).map Char.toLower ≠ name := by
    rintro rfl
    exact pointless (List.mem_map.2 ⟨'.', by simp, by decide⟩)
  have signless {sign : Char} (notDigit : sign.isDigit = false) (notPoint : sign ≠ '.')
      (rest : List Char) : whole ++ '.' :: fraction ≠ sign :: rest := by
    intro starts
    have listed : sign ∈ whole ++ '.' :: fraction := starts ▸ List.mem_cons_self
    have digit : sign.isDigit = true := by
      rcases List.mem_append.1 listed with first | rest
      · exact wholeDigits sign first
      · exact fractionDigits sign ((List.mem_cons.1 rest).resolve_left notPoint)
    rw [notDigit] at digit
    cases digit
  have magnitude : Decimal.magnitudeText? (whole ++ '.' :: fraction) =
      (Decimal.unsigned? (whole ++ '.' :: fraction)).map Decimal.toFloat := by
    unfold Decimal.magnitudeText?
    dsimp only
    rw [if_neg (not_or.2 ⟨unnamed (by decide), unnamed (by decide)⟩),
      if_neg (unnamed (by decide))]
  unfold float? Decimal.float?
  rw [String.toList_ofList]
  split
  next starts => exact absurd starts (signless (by decide) (by decide) _)
  next starts => exact absurd starts (signless (by decide) (by decide) _)
  next => rw [magnitude, unsigned?_point wholeDigits fractionDigits present, Option.map_some]

end Reading

variable {config next : Configuration}

/-- The setting that an override writes. -/
def setting : Override → Configuration.Setting
  | .workers => .workers
  | .partitionMode => .partitionMode
  | .roundInterval => .roundIntervalMs
  | .queueCapacity => .capacity
  | .adaptationWindow => .windowRounds
  | .powerBudget => .powerBudgetW
  | .thermalThreshold => .safetyThresholdC
  | .thermalReclaim => .reclaim
  | .slaBacklog => .slaBacklog
  | .lockdownThreshold => .lockdownThreshold

/-- Writing one setting leaves the others as they are. -/
theorem get_write?_of_ne {override : Override} {text : String}
    (written : override.write? config text = some next) {other : Configuration.Setting}
    (different : other ≠ override.setting) :
    next.get other = config.get other := by
  cases override
  all_goals
    obtain ⟨value, _, rfl⟩ := Option.map_eq_some_iff.1 written
    cases other <;> first | rfl | exact absurd rfl different

/-- An override changes no setting but its own. -/
theorem get_apply_of_ne (lookup : String → Option String) (override : Override)
    {other : Configuration.Setting} (different : other ≠ override.setting) :
    (override.apply lookup config).get other = config.get other := by
  rw [apply]
  cases written : (lookup override.variableName).bind (override.write? config) with
  | none => rfl
  | some next =>
      obtain ⟨text, _, written⟩ := Option.bind_eq_some_iff.1 written
      exact get_write?_of_ne written different

/-- A setting is written with what its variable's text is read as. -/
theorem get_write?_self (config : Configuration) (text : String) (override : Override) :
    (override.write? config text).map (·.get override.setting) =
      override.setting.ownVariable?.bind (·.read text) := by
  cases override
  all_goals
    rw [write?, Option.map_map]
    exact Option.map_id'

/-- The variable of an override is that of the setting that it writes. -/
theorem exists_variable (override : Override) :
    ∃ read, override.setting.ownVariable? = some ⟨override.variableName, read⟩ := by
  cases override <;> exact ⟨_, rfl⟩

/-- An override gives its setting the value of the variable, or leaves it. -/
theorem get_apply_self (lookup : String → Option String) (override : Override) :
    (override.apply lookup config).get override.setting =
      (override.setting.override? lookup).getD (config.get override.setting) := by
  obtain ⟨read, found⟩ := override.exists_variable
  rw [apply, Configuration.Setting.override?, found, Option.bind_some]
  dsimp only
  cases lookup override.variableName with
  | none => rfl
  | some text =>
      have written := override.get_write?_self config text
      rw [found, Option.bind_some] at written
      dsimp only at written
      rw [Option.bind_some, Option.bind_some, ← written]
      cases override.write? config text <;> rfl

/-- An override gives its setting the value of its variable. -/
theorem get_apply (lookup : String → Option String) (override : Override)
    (setting : Configuration.Setting) :
    (override.apply lookup config).get setting =
      if setting = override.setting then
        (setting.override? lookup).getD (config.get setting)
      else config.get setting := by
  split
  next same => exact same ▸ get_apply_self lookup override
  next different => exact get_apply_of_ne lookup override different

/-- However often a setting is overridden, it has the value of its variable. -/
theorem get_foldl_apply (lookup : String → Option String) (overrides : List Override)
    (config : Configuration) (setting : Configuration.Setting) :
    (overrides.foldl (apply lookup) config).get setting =
      if setting ∈ overrides.map Override.setting then
        (setting.override? lookup).getD (config.get setting)
      else config.get setting := by
  induction overrides generalizing config with
  | nil => rfl
  | cons override rest inductionHypothesis =>
      rw [List.foldl_cons, inductionHypothesis, get_apply, List.map_cons]
      by_cases own : setting = override.setting
      · -- To override it once more gives the same value.
        rw [if_pos own, if_pos (List.mem_cons.2 (.inl own))]
        cases setting.override? lookup <;> exact ite_self _
      · simp only [List.mem_cons, own, false_or, if_false]

/-- Every setting is written by an override or has no variable. -/
theorem mem_map_setting_or (setting : Configuration.Setting) :
    setting ∈ Override.all.map Override.setting ∨ setting.ownVariable? = none := by
  cases setting <;> first | exact .inl (by decide) | exact .inr rfl

end Override

namespace Configuration

/-- All overrides together give every setting the value of its variable. -/
theorem get_override (config : Configuration) (lookup : String → Option String)
    (setting : Setting) :
    (config.override lookup).get setting =
      (setting.override? lookup).getD (config.get setting) := by
  rw [override, Override.get_foldl_apply]
  split
  next => rfl
  next absent =>
    have none := (Override.mem_map_setting_or setting).resolve_left absent
    rw [Setting.override?, none]
    rfl

/-- Overriding twice is overriding once. -/
theorem override_override (config : Configuration) (lookup : String → Option String) :
    (config.override lookup).override lookup = config.override lookup := by
  refine eq_of_get_eq fun setting => ?_
  rw [get_override, get_override]
  cases setting.override? lookup <;> rfl

end Configuration

section Names

namespace Override

/-- The list of the overrides leaves none out. -/
theorem mem_all (override : Override) : override ∈ all := by
  cases override <;> decide

/-- No two overrides share a variable. -/
theorem variableName_inj {first second : Override}
    (same : first.variableName = second.variableName) : first = second := by
  have table : ∀ first ∈ all, ∀ second ∈ all,
      first.variableName = second.variableName → first = second := by decide
  exact table first first.mem_all second second.mem_all same

/-- The variable of a setting is that of an override. -/
theorem exists_of_ownVariable? {setting : Configuration.Setting}
    {found : Configuration.Variable setting.Value} (has : setting.ownVariable? = some found) :
    ∃ override : Override, override.setting = setting ∧ override.variableName = found.name := by
  have member := (mem_map_setting_or setting).resolve_right (by simp [has])
  obtain ⟨override, _, rfl⟩ := List.mem_map.1 member
  obtain ⟨read, named⟩ := override.exists_variable
  rw [named] at has
  cases has
  exact ⟨override, rfl, rfl⟩

/-- No plain name ends in an underscore and the name of a variable, so under a profile no
variable has a plain name. -/
theorem profiled_ne (profile : String) (override : Override) {name : String}
    (plain : name ∈ "HASHGRID_PROFILE" :: all.map variableName) :
    name ≠ profile ++ "_" ++ override.variableName := by
  have table : ∀ override ∈ all, ∀ name ∈ "HASHGRID_PROFILE" :: all.map variableName,
      ¬ '_' :: override.variableName.toList <:+ name.toList := by decide
  rintro rfl
  apply table override override.mem_all _ plain
  simp

end Override

/-- Environments that differ in the variables of one override choose the same texts for the
others. -/
theorem Environment.chosen?_congr {environment other : Environment} {override another : Override}
    (agree : ∀ name, name ≠ override.variableName →
      name ≠ environment.profile ++ "_" ++ override.variableName →
        other.find? name = environment.find? name)
    (different : another ≠ override) :
    other.chosen? another.variableName = environment.chosen? another.variableName := by
  have filled : ∀ name, name ≠ override.variableName →
      name ≠ environment.profile ++ "_" ++ override.variableName →
        other.filled? name = environment.filled? name := by
    intro name plain profiled
    rw [filled?, filled?, agree name plain profiled]
  have listed : ∀ override : Override,
      override.variableName ∈ "HASHGRID_PROFILE" :: Override.all.map Override.variableName :=
    fun override => List.mem_cons_of_mem _ (List.mem_map_of_mem override.mem_all)
  have sameProfile : other.filled? "HASHGRID_PROFILE" = environment.filled? "HASHGRID_PROFILE" :=
    filled _ (by cases override <;> decide) (Override.profiled_ne _ _ List.mem_cons_self)
  have samePlain : other.filled? another.variableName = environment.filled? another.variableName :=
    filled _ (fun same => different (Override.variableName_inj same))
      (Override.profiled_ne _ _ (listed another))
  rw [chosen?, chosen?, sameProfile, samePlain]
  cases given : environment.filled? "HASHGRID_PROFILE" with
  | none => rfl
  | some profile =>
      have named : environment.profile = upperCase profile := by
        rw [Environment.profile, given, Option.getD_some]
      have sameProfiled : other.filled? (upperCase profile ++ "_" ++ another.variableName) =
          environment.filled? (upperCase profile ++ "_" ++ another.variableName) := by
        refine filled _ (Override.profiled_ne _ _ (listed override)).symm ?_
        rw [named]
        intro same
        exact different (Override.variableName_inj (String.append_right_inj _ |>.1 same))
      dsimp only
      rw [sameProfiled]

end Names

end PoolArbiter
