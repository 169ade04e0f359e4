import PoolArbiter.CommandLine.Arguments
import PoolArbiter.Configuration.Override

/-!
# The configuration of a run

The configuration is built from a document, then from the variables of the
environment, and last from the arguments; a later source wins. It is checked
before and after the arguments are applied.
-/

namespace PoolArbiter

/-- What a path leads to. -/
inductive FileContent where
  | absent
  /-- Something that cannot be read as a text. -/
  | unreadable
  | text (content : String)
  deriving DecidableEq, Repr

/-- The step of loading at which a configuration is refused. -/
inductive LoadStep where
  | file (path : String)
  | defaults
  | arguments
  deriving DecidableEq, Repr

/-- The text that tells where loading failed. -/
def LoadStep.message : LoadStep → String
  | .file path => "failed to load config: " ++ path
  | .defaults => "failed to build default config"
  | .arguments => "invalid configuration after CLI overrides"

/-- Why a configuration cannot be loaded, and where. -/
structure LoadFault where
  step : LoadStep
  refusal : Refusal

namespace Configuration

/-- The configuration file that is read if there is one and no path is given. -/
def standardFile : String :=
  "hashgrid.toml"

/-- The configuration with the settings that the arguments give. -/
def withArguments (config : Configuration) (arguments : Arguments) : Configuration :=
  { config with
    pool :=
      { config.pool with
        workers := arguments.workers.getD config.pool.workers
        roundIntervalMs := arguments.roundIntervalMs.getD config.pool.roundIntervalMs }
    thermal :=
      { config.thermal with
        powerBudgetW := arguments.powerBudget.getD config.thermal.powerBudgetW }
    adaptation :=
      { config.adaptation with
        powerSaveMode := arguments.powerSave || config.adaptation.powerSaveMode } }

/-- The configuration of a document, with the step noted if it is refused. -/
def ofDocumentAt (step : LoadStep) (environment : Environment) (document : String) :
    Except LoadFault Configuration :=
  (ofDocument document environment).mapError fun refusal => ⟨step, refusal⟩

/-- The configuration before the arguments: from the given file, else from the
standard file, else from the defaults. -/
def loadDocument (given : Option String) (environment : Environment)
    (file : String → FileContent) : Except LoadFault Configuration :=
  let path := given.getD standardFile
  match file path with
  | .text content => ofDocumentAt (.file path) environment content
  | .unreadable => .error ⟨.file path, .unreadableFile⟩
  | .absent =>
      if given.isSome then .error ⟨.file path, .unreadableFile⟩
      else ofDocumentAt .defaults environment ""

/-- The configuration of a run. -/
def load (arguments : Arguments) (environment : Environment) (file : String → FileContent) :
    Except LoadFault Configuration :=
  (loadDocument arguments.config environment file).bind fun loaded =>
    let config := loaded.withArguments arguments
    match config.check with
    | .ok () => .ok config
    | .error refusal => .error ⟨.arguments, refusal⟩

end Configuration

end PoolArbiter
