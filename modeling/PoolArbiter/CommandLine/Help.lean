import PoolArbiter.CommandLine.Arguments
import PoolArbiter.Text.Terminal

/-!
# Help

The text that explains the options, in a long and in a short form. Every option
has its explanation on the line below it. The text has terminal sequences only if the
environment forces emphasis.
-/

namespace PoolArbiter.Help

/-- Whether the environment forces emphasis: one variable asks for it with any text but
a zero, another one forbids it with any text at all. -/
def forcesEmphasis (environment : Environment) : Bool :=
  (environment.find? "CLICOLOR_FORCE").any (· ≠ "0") &&
    (environment.filled? "NO_COLOR").isNone

/-- A text between the terminal sequences for bold letters. -/
def bold (emphatic : Bool) (text : String) : String :=
  if emphatic then "\x1b[1m" ++ text ++ "\x1b[0m" else text

/-- A text between the terminal sequences of a heading. -/
def heading (emphatic : Bool) (text : String) : String :=
  if emphatic then "\x1b[1m\x1b[4m" ++ text ++ "\x1b[0m" else text

/-- One option in the help. -/
structure Topic where
  /-- How the option is written. -/
  form : String
  explanation : String
  /-- What stands in brackets after the explanation. -/
  note : Option String := none

/-- The form of a setting: its name and a placeholder for its value. -/
def settingForm (emphatic : Bool) (setting : Arguments.Setting) : String :=
  let placeholder := setting.name.toUpper.map fun letter => if letter = '-' then '_' else letter
  "      " ++ bold emphatic ("--" ++ setting.name) ++ " <" ++ placeholder ++ ">"

/-- The form of a switch. -/
def switchForm (emphatic : Bool) (switch : Arguments.Switch) : String :=
  "      " ++ bold emphatic ("--" ++ switch.name)

/-- What a setting does. -/
def settingTopic (environment : Environment) (emphatic : Bool) (setting : Arguments.Setting) :
    Topic where
  form := settingForm emphatic setting
  explanation :=
    match setting with
    | .config => "Path to config file (default: ./hashgrid.toml if present)"
    | .workers => "Worker pool size override"
    | .roundInterval => "Round interval override, in milliseconds"
    | .powerBudget => "Power budget override, in watts"
    | .rounds => "Stop after this many rounds (runs until Ctrl-C if unset)"
    | .submitRate => "Work items submitted per round interval"
    | .difficulty => "Leading zero bits a hash needs to count as Found"
    | .scanBudget => "Nonces a simulated worker scans per assignment"
    | .simThreads => "Threads backing the simulated pool (default: rayon's choice)"
  note :=
    match setting with
    | .config =>
        some ("env: HASHGRID_CONFIG=" ++ (environment.find? "HASHGRID_CONFIG").getD "")
    | .submitRate => some "default: 8"
    | .difficulty => some "default: 16"
    | .scanBudget => some "default: 50000"
    | _ => none

/-- What a switch does. -/
def switchTopic (emphatic : Bool) (switch : Arguments.Switch) : Topic where
  form := switchForm emphatic switch
  explanation :=
    match switch with
    | .powerSave => "Start in power-save mode (round-robin assignment)"
    | .quiet => "Print only results and drops, not per-round telemetry"
    | .printConfig => "Print the resolved config as TOML and exit"

/-- The option that asks for help. -/
def helpTopic (emphatic long : Bool) : Topic where
  form := "  " ++ bold emphatic "-h" ++ ", " ++ bold emphatic "--help"
  explanation :=
    if long then "Print help (see a summary with '-h')" else "Print help (see more with '--help')"

/-- All options. -/
def topics (environment : Environment) (emphatic long : Bool) : List Topic :=
  Arguments.Setting.all.map (settingTopic environment emphatic) ++
    Arguments.Switch.all.map (switchTopic emphatic) ++ [helpTopic emphatic long]

/-- The indentation of an explanation. -/
def indentation : String :=
  "          "

/-- A text with the indentation at the start of each of its lines. -/
def indented (text : String) : String :=
  indentation ++ String.ofList (text.toList.flatMap fun letter =>
    if letter = '\n' then '\n' :: indentation.toList else [letter])

/-- What stands below the form of an option: its explanation and, after an empty line
in the long form, its note. -/
def Topic.body (long : Bool) (topic : Topic) : String :=
  match topic.note with
  | none => topic.explanation
  | some note => topic.explanation ++ (if long then "\n\n" else " ") ++ "[" ++ note ++ "]"

/-- The parts of an option, each from a new line on. -/
def Topic.lines (long : Bool) (topic : Topic) : List String :=
  [topic.form, indented (topic.body long)]

/-- The opening lines. -/
def opening (long : Bool) : List String :=
  if long then
    [ "Run the hashgrid arbiter against a simulated worker pool.", "",
      "Drives the round loop, feeds it a synthetic workload, and prints per-round telemetry, " ++
        "results and drop records as JSON lines." ]
  else
    ["Work arbiter for a fixed pool of hash-search workers"]

/-- The parts of the help, each from a new line on. -/
def lines (environment : Environment) (emphatic long : Bool) : List String :=
  let described := (topics environment emphatic long).map (Topic.lines long)
  opening long ++
    [ "", heading emphatic "Usage:" ++ " " ++ bold emphatic "hashgrid" ++ " [OPTIONS]", "",
      heading emphatic "Options:" ] ++
    (if long then List.intercalate [""] described else described.flatten)

/-- The text of the help. -/
def text (environment : Environment) (long : Bool) : String :=
  let emphatic := forcesEmphasis environment
  let whole := String.join ((lines environment emphatic long).map (· ++ "\n"))
  if emphatic then whole else withoutSequences whole

end PoolArbiter.Help
