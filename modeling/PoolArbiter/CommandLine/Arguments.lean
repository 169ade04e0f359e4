import PoolArbiter.Configuration.Document
import PoolArbiter.Decimal.Reading
import PoolArbiter.Environment.Basic

/-!
# Arguments

The arguments of a run and how they are read from the words of a command line. A
setting takes its value from after an equals sign or from the next word; a switch
takes none. The value of a setting is looked at when the next known option or the
end is reached, so a word that is not known at all is reported first.
-/

namespace PoolArbiter

/-- The arguments of a run, with their defaults. -/
structure Arguments where
  /-- The path of the configuration document. -/
  config : Option String := none
  workers : Option Nat := none
  roundIntervalMs : Option Nat := none
  powerBudget : Option Float := none
  /-- Number of rounds; without it the run goes on. -/
  rounds : Option Nat := none
  /-- Number of items submitted in each round. -/
  submitRate : Nat := 8
  /-- Number of leading zero bits that make a hit. -/
  difficulty : Nat := 16
  /-- Number of nonces that a simulated worker scans. -/
  scanBudget : Nat := 50000
  simThreads : Option Nat := none
  powerSave : Bool := false
  quiet : Bool := false
  printConfig : Bool := false

/-- Why a command line is refused. -/
inductive UsageFault where
  | unknownArgument
  /-- The value of a setting is missing, or it is empty where it must not be. -/
  | missingValue
  /-- The value of a setting cannot be read. -/
  | malformedValue
  /-- An option stands twice. -/
  | repeated
  /-- A switch has a value. -/
  | unexpectedValue
  /-- Help is asked for, in its long or its short form. -/
  | help (long : Bool)
  deriving DecidableEq, Repr

namespace Arguments

/-- An option with a value. -/
inductive Setting where
  | config
  | workers
  | roundInterval
  | powerBudget
  | rounds
  | submitRate
  | difficulty
  | scanBudget
  | simThreads
  deriving DecidableEq, Repr

/-- An option without a value. -/
inductive Switch where
  | powerSave
  | quiet
  | printConfig
  deriving DecidableEq, Repr

namespace Setting

/-- All settings. -/
def all : List Setting :=
  [.config, .workers, .roundInterval, .powerBudget, .rounds, .submitRate, .difficulty,
    .scanBudget, .simThreads]

/-- The name of a setting, without the dashes. -/
def name : Setting → String
  | .config => "config"
  | .workers => "workers"
  | .roundInterval => "round-interval-ms"
  | .powerBudget => "power-budget"
  | .rounds => "rounds"
  | .submitRate => "submit-rate"
  | .difficulty => "difficulty"
  | .scanBudget => "scan-budget"
  | .simThreads => "sim-threads"

end Setting

namespace Switch

/-- All switches. -/
def all : List Switch :=
  [.powerSave, .quiet, .printConfig]

/-- The name of a switch, without the dashes. -/
def name : Switch → String
  | .powerSave => "power-save"
  | .quiet => "quiet"
  | .printConfig => "print-config"

end Switch

/-- A 64-bit number. -/
def word? (value : String) : Except UsageFault Nat :=
  match Decimal.natural? Configuration.greatestWord value.toList with
  | some number => .ok number
  | none => .error .malformedValue

/-- A 32-bit number, which may be written with any sign. -/
def halfWord? (value : String) : Except UsageFault Nat :=
  match Decimal.integer? value.toList with
  | some number =>
      if 0 ≤ number ∧ number ≤ Configuration.greatestHalfWord then .ok number.toNat
      else .error .malformedValue
  | none => .error .malformedValue

/-- A float. -/
def float? (value : String) : Except UsageFault Float :=
  match Decimal.float? value.toList with
  | some number => .ok number
  | none => .error .malformedValue

/-- The path of a file, which must not be empty. -/
def path? (value : String) : Except UsageFault String :=
  if value.isEmpty then .error .missingValue else .ok value

/-- The arguments with the value of a setting. -/
def write? (arguments : Arguments) (value : String) :
    Setting → Except UsageFault Arguments
  | .config => (path? value).map fun path => { arguments with config := some path }
  | .workers => (word? value).map fun count => { arguments with workers := some count }
  | .roundInterval => (word? value).map fun milliseconds =>
      { arguments with roundIntervalMs := some milliseconds }
  | .powerBudget => (float? value).map fun watts => { arguments with powerBudget := some watts }
  | .rounds => (word? value).map fun count => { arguments with rounds := some count }
  | .submitRate => (word? value).map fun count => { arguments with submitRate := count }
  | .difficulty => (halfWord? value).map fun bits => { arguments with difficulty := bits }
  | .scanBudget => (word? value).map fun count => { arguments with scanBudget := count }
  | .simThreads => (word? value).map fun count => { arguments with simThreads := some count }

/-- Whether a switch is on. -/
def isOn (arguments : Arguments) : Switch → Bool
  | .powerSave => arguments.powerSave
  | .quiet => arguments.quiet
  | .printConfig => arguments.printConfig

/-- Turn a switch on. -/
def turnOn (arguments : Arguments) : Switch → Arguments
  | .powerSave => { arguments with powerSave := true }
  | .quiet => { arguments with quiet := true }
  | .printConfig => { arguments with printConfig := true }

/-- What a word stands for. -/
inductive Word where
  | help (long : Bool)
  | setting (setting : Setting) (attached : Option String)
  | switch (switch : Switch)
  /-- An option without a value that has one after an equals sign. -/
  | burdened
  | endOfOptions
  | value (content : String)
  | unknown
  deriving DecidableEq, Repr

/-- The option of a name, with the value after the equals sign. -/
def Word.ofOption (name : String) (attached : Option String) : Word :=
  match Setting.all.find? (·.name == name), Switch.all.find? (·.name == name) with
  | some found, _ => .setting found attached
  | none, some found => if attached.isSome then .burdened else .switch found
  | none, none =>
      if name = "help" then if attached.isSome then .burdened else .help true
      else .unknown

/-- What a word stands for by its form. -/
def Word.ofText (text : String) : Word :=
  match text.toList with
  | ['-', '-'] => .endOfOptions
  | '-' :: '-' :: option =>
      let name := option.takeWhile (· ≠ '=')
      .ofOption (String.ofList name)
        (if name.length < option.length then
          some (String.ofList (option.drop (name.length + 1)))
        else none)
  | '-' :: 'h' :: _ => .help false
  | '-' :: _ :: _ => .unknown
  | _ => .value text

/-- The state of reading between two words. -/
structure Progress where
  arguments : Arguments := {}
  /-- The settings that have their value. -/
  given : List Setting := []
  /-- A setting whose value, if it has come, was not looked at yet. -/
  pending : Option (Setting × Option String) := none
  /-- Whether the end of the options has been marked. -/
  ended : Bool := false

namespace Progress

/-- Give a setting its value. -/
def give (progress : Progress) (setting : Setting) (value : String) :
    Except UsageFault Progress :=
  if progress.given.contains setting then
    .error .repeated
  else
    (progress.arguments.write? value setting).map fun arguments =>
      { progress with arguments := arguments, given := setting :: progress.given }

/-- Look at the value that was put off. -/
def settle (progress : Progress) : Except UsageFault Progress :=
  match progress.pending with
  | none => .ok progress
  | some (_, none) => .error .missingValue
  | some (setting, some value) => { progress with pending := none }.give setting value

/-- Read the next word. -/
def read (progress : Progress) (text : String) : Except UsageFault Progress :=
  if progress.ended then
    .error .unknownArgument
  else
    match Word.ofText text with
    | .unknown => .error .unknownArgument
    | .burdened => .error .unexpectedValue
    | .endOfOptions => .ok { progress with ended := true }
    | .help long => progress.settle.bind fun _ => .error (.help long)
    | .switch switch => progress.settle.bind fun settled =>
        if settled.arguments.isOn switch then .error .repeated
        else .ok { settled with arguments := settled.arguments.turnOn switch }
    | .setting setting (some value) => progress.settle.bind (·.give setting value)
    | .setting setting none =>
        progress.settle.map ({ · with pending := some (setting, none) })
    | .value content =>
        match progress.pending with
        | some (setting, none) =>
            .ok { progress with pending := some (setting, some content) }
        | _ => .error .unknownArgument

end Progress

/-- The arguments that the words of a command line give. -/
def ofWords (words : List String) : Except UsageFault Arguments :=
  ((words.foldlM Progress.read {}).bind Progress.settle).map (·.arguments)

/-- The arguments of a command line under an environment, from which the path of
the configuration is taken if no word gives it. -/
def parse (words : List String) (environment : Environment) :
    Except UsageFault Arguments :=
  (ofWords words).bind fun arguments =>
    match arguments.config, environment.find? "HASHGRID_CONFIG" with
    | none, some value => arguments.write? value .config
    | _, _ => .ok arguments

end Arguments

end PoolArbiter
