import PoolArbiter.CommandLine.Load
import PoolArbiter.Proofs.Configuration.Overrides
import PoolArbiter.Proofs.Configuration.Tests

/-!
# Which source a setting comes from

A setting is set by an argument, else by its variable, else by the document, else by its
default. `FollowsPrecedence` says this of every setting of a configuration that was loaded, and
that a variable of another setting does not matter.
-/

namespace PoolArbiter

namespace Configuration

/-- What the arguments set a setting to. -/
def Setting.flag? (arguments : Arguments) : (setting : Setting) → Option setting.Value
  | .workers => arguments.workers
  | .roundIntervalMs => arguments.roundIntervalMs
  | .powerBudgetW => arguments.powerBudget
  | .powerSaveMode => if arguments.powerSave then some true else none
  | _ => none

/-- A flag goes before everything else. -/
theorem get_withArguments (config : Configuration) (arguments : Arguments) (setting : Setting) :
    (config.withArguments arguments).get setting =
      (setting.flag? arguments).getD (config.get setting) := by
  cases setting with
  | powerSaveMode =>
      change (arguments.powerSave || config.adaptation.powerSaveMode) =
        (if arguments.powerSave then some true else none).getD config.adaptation.powerSaveMode
      cases arguments.powerSave <;> rfl
  | _ => rfl

/-- The document of a run: the given file, else the standard file, else nothing. -/
inductive Source (given : Option String) (file : String → FileContent) : String → Prop where
  | given {path document : String} (chosen : given = some path)
      (holds : file path = .text document) : Source given file document
  | standard {document : String} (free : given = none)
      (holds : file standardFile = .text document) : Source given file document
  | defaults (free : given = none) (absent : file standardFile = .absent) : Source given file ""

variable {arguments : Arguments} {environment : Environment} {file : String → FileContent}
  {given : Option String} {document : String} {config : Configuration}

/-- There is one document that counts. -/
theorem Source.unique {first second : String} (one : Source given file first)
    (another : Source given file second) : first = second := by
  cases one <;> cases another <;> simp_all

/-- An accepted document is read, overridden by the environment and found valid. -/
theorem ofDocument_eq_ok (accepted : ofDocument document environment = .ok config) :
    ∃ entries parsed, Toml.readDocument? document = some entries ∧
      ofEntries? entries = some parsed ∧ config = parsed.override environment.chosen? := by
  unfold ofDocument at accepted
  split at accepted
  next => cases accepted
  next parsed described =>
    obtain ⟨entries, read, described⟩ := Option.bind_eq_some_iff.1 described
    dsimp only at accepted
    split at accepted
    next => cases accepted
    next =>
      rw [Environment.profiled?_eq_chosen?] at accepted
      exact ⟨entries, parsed, read, described, (Except.ok.inj accepted).symm⟩

/-- What is loaded at a step is accepted. -/
theorem ofDocumentAt_eq_ok {step : LoadStep}
    (loaded : ofDocumentAt step environment document = .ok config) :
    ofDocument document environment = .ok config := by
  cases built : ofDocument document environment with
  | error =>
      rw [ofDocumentAt, built] at loaded
      cases loaded
  | ok =>
      rw [ofDocumentAt, built] at loaded
      cases loaded
      rfl

/-- What is loaded comes from the document that counts. -/
theorem loadDocument_eq_ok (loaded : loadDocument given environment file = .ok config) :
    ∃ document, Source given file document ∧ ofDocument document environment = .ok config := by
  unfold loadDocument at loaded
  dsimp only at loaded
  split at loaded
  next document holds =>
    refine ⟨document, ?_, ofDocumentAt_eq_ok loaded⟩
    cases given with
    | none => exact .standard rfl holds
    | some path => exact .given rfl holds
  next => cases loaded
  next absent =>
    cases given with
    | none => exact ⟨"", .defaults rfl absent, ofDocumentAt_eq_ok loaded⟩
    | some path => cases loaded

/-- A configuration that is loaded went through all sources and is accepted. -/
theorem load_eq_ok (loaded : load arguments environment file = .ok config) :
    ∃ document entries parsed, Source arguments.config file document ∧
      Toml.readDocument? document = some entries ∧ ofEntries? entries = some parsed ∧
      config = (parsed.override environment.chosen?).withArguments arguments ∧
      config.IsAccepted := by
  cases before : loadDocument arguments.config environment file with
  | error =>
      rw [load, before] at loaded
      cases loaded
  | ok base =>
      obtain ⟨document, source, built⟩ := loadDocument_eq_ok before
      obtain ⟨entries, parsed, read, described, rfl⟩ := ofDocument_eq_ok built
      rw [load, before] at loaded
      dsimp only [Except.bind] at loaded
      split at loaded
      next checked =>
        cases loaded
        exact ⟨document, entries, parsed, source, read, described, rfl,
          (check_eq_ok_iff _).1 checked⟩
      next => cases loaded

/-- A setting is taken from the flags, else from the environment, else from the document. -/
theorem get_layers {entries : Toml.Entries} {parsed : Configuration}
    (described : ofEntries? entries = some parsed) (lookup : String → Option String)
    (arguments : Arguments) (setting : Setting) :
    ((parsed.override lookup).withArguments arguments).get setting =
      (setting.flag? arguments).getD
        ((setting.override? lookup).getD (setting.stored entries)) := by
  rw [get_withArguments, get_override, get_eq_stored described]

/-- Every setting of a configuration that was loaded comes from the first source that sets it. -/
structure FollowsPrecedence (arguments : Arguments) (environment : Environment)
    (file : String → FileContent) (document : String) (entries : Toml.Entries)
    (config : Configuration) : Prop where
  accepted : config.IsAccepted
  source : Source arguments.config file document
  read : Toml.readDocument? document = some entries
  /-- What the document holds for a setting can be read. -/
  readable : ∀ (setting : Setting) value, setting.written? entries = some value →
    (setting.entry.read value).isSome
  /-- The argument, else the variable, else the document or the default. -/
  layered : ∀ setting, config.get setting =
    (setting.flag? arguments).getD
      ((setting.override? environment.chosen?).getD (setting.stored entries))
  /-- Nothing else sets a setting that has no argument and no variable. -/
  plain : ∀ setting, (∀ arguments, setting.flag? arguments = none) → setting.ownVariable? = none →
    config.get setting = setting.stored entries
  /-- The variables of a setting matter for no other one. -/
  separate : ∀ setting (found : Variable setting.Value), setting.ownVariable? = some found →
    ∀ changed : Environment,
      (∀ name, name ≠ found.name → name ≠ environment.profile ++ "_" ++ found.name →
        changed.find? name = environment.find? name) →
      ∀ next, load arguments changed file = .ok next →
        ∀ other, other ≠ setting → next.get other = config.get other
  /-- Variables set no more the second time. -/
  settled : ∀ (before : Configuration) (lookup : String → Option String),
    (before.override lookup).override lookup = before.override lookup

/-- Whatever the document, the variables and the arguments, a configuration that is loaded
follows their precedence. -/
theorem load_followsPrecedence (loaded : load arguments environment file = .ok config) :
    ∃ document entries,
      FollowsPrecedence arguments environment file document entries config := by
  obtain ⟨document, entries, parsed, source, read, described, rfl, accepted⟩ := load_eq_ok loaded
  have layered := get_layers described environment.chosen? arguments
  refine ⟨document, entries, accepted, source, read, ?readable, layered, ?plain, ?separate,
    ?settled⟩
  case readable =>
    intro setting value written
    rw [read_of_written? described written]
    rfl
  case plain =>
    intro setting unflagged unnamed
    rw [layered, unflagged, Setting.override?, unnamed]
    rfl
  case separate =>
    intro setting found has changed agree next loadedNext other different
    obtain ⟨documentNext, entriesNext, parsedNext, sourceNext, readNext, describedNext, rfl, _⟩ :=
      load_eq_ok loadedNext
    -- The document is the same, so only what the environments choose could differ.
    obtain rfl := source.unique sourceNext
    obtain rfl := Option.some.inj (read.symm.trans readNext)
    obtain ⟨override, rfl, named⟩ := Override.exists_of_ownVariable? has
    rw [← named] at agree
    have same : other.override? changed.chosen? = other.override? environment.chosen? := by
      rw [Setting.override?, Setting.override?]
      cases hasOther : other.ownVariable? with
      | none => rfl
      | some foundOther =>
          obtain ⟨another, rfl, namedOther⟩ := Override.exists_of_ownVariable? hasOther
          have chosen := Environment.chosen?_congr agree
            (fun same : another = override => different (same ▸ rfl))
          rw [namedOther] at chosen
          rw [Option.bind_some, Option.bind_some, chosen]
    rw [layered, get_layers describedNext, same]
  case settled => exact override_override

/-- The workers come from an argument, the backlog from the variable of the profile, the power
budget from a variable whose text is a float, and the capacity from the file, since the text of
its variable is no number. -/
theorem load_followsPrecedence_mixed :
    let arguments : Arguments := { workers := some 12 }
    let environment : Environment := .ofList
      [("HASHGRID_PROFILE", "dev"), ("HASHGRID_WORKERS", "64"), ("HASHGRID_SLA_BACKLOG", "9"),
        ("DEV_HASHGRID_SLA_BACKLOG", "7"), ("HASHGRID_QUEUE_CAPACITY", "many"),
        ("HASHGRID_POWER_BUDGET_W", "150.5")]
    let file := fun _ : String => FileContent.text
      "[queues]\ncapacity = 70\n[thermal]\npower_budget_w = 90.25\n"
    ∃ config, load arguments environment file = .ok config ∧
      config.pool.workers = 12 ∧ config.quality.slaBacklog = 7 ∧ config.queues.capacity = 70 ∧
      config.thermal.powerBudgetW = 150.5 ∧
      ∃ document entries,
        FollowsPrecedence arguments environment file document entries config := by
  intro arguments environment file
  have loads : (load arguments environment file).toOption.any (fun config =>
      config.pool.workers == 12 && config.quality.slaBacklog == 7 &&
        config.queues.capacity == 70 && decide (config.thermal.powerBudgetW = 150.5)) = true := by
    decide +kernel
  cases loaded : load arguments environment file with
  | error =>
      rw [loaded] at loads
      cases loads
  | ok config =>
      simp only [loaded, Except.toOption, Option.any_some, Bool.and_eq_true, beq_iff_eq,
        decide_eq_true_eq] at loads
      obtain ⟨⟨⟨workers, backlog⟩, capacity⟩, budget⟩ := loads
      exact ⟨config, rfl, workers, backlog, capacity, budget, load_followsPrecedence loaded⟩

end Configuration

end PoolArbiter
