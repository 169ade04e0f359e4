import PoolArbiter.CommandLine.Help
import PoolArbiter.CommandLine.Startup
import PoolArbiter.Environment.VariableFile
import PoolArbiter.Output.Clock
import Std.Time.DateTime.Timestamp

/-!
# The program

Reads the words of the command line, the environment and files, and prints what
`PoolArbiter.Startup` and `PoolArbiter.Run` decide.
-/

namespace PoolArbiter

/-- The variable that a text of a name, an equals sign and a value describes. -/
def Environment.entry? (text : String) : Option (String × String) :=
  let letters := text.toList
  let name := letters.takeWhile (· ≠ '=')
  if name.length < letters.length then
    some (String.ofList name, String.ofList (letters.drop (name.length + 1)))
  else
    none

/-- The variables of the process. -/
def readEnvironment : IO Environment := do
  let bytes ← try IO.FS.readBinFile "/proc/self/environ" catch _ => pure .empty
  let texts := (String.fromUTF8? bytes).getD "" |>.splitOn "\x00"
  return .ofList (texts.filterMap Environment.entry?)

/-- What a path leads to. -/
def readFile (path : String) : IO FileContent := do
  try
    return .text (← IO.FS.readFile path)
  catch
    | .noFileOrDirectory _ _ _ => return .absent
    | _ => return .unreadable

/-- The environment with the variables of the file `.env`, if there is one. -/
def readVariableFile (environment : Environment) : IO Environment := do
  match ← readFile ".env" with
  | .text content => return environment.withFile content
  | _ => return environment

/-- The time of day. -/
def now : IO String := do
  let moment ← Std.Time.Timestamp.now
  let nanoseconds := moment.toNanosecondsSinceUnixEpoch.val.toNat
  return Clock.text (nanoseconds / 1000000000) (nanoseconds % 1000000000)

/-- Print lines. -/
def printLines (lines : List OutputLine) : IO Unit := do
  let time ← now
  for line in lines do
    IO.println (line.render time)
  (← IO.getStdout).flush

/-- Drive a run, for a number of rounds if there is a limit. -/
partial def drive (run : Run) (limit : Option Nat) : IO UInt32 := do
  let (next, written) := run.step
  printLines written
  if next.isLocked || limit.any (Run.roundCount · ≤ next.controller.round) then
    printLines next.close
    if next.isLocked then IO.eprintln ("controller halted: " ++ Refusal.lockdown.message)
    return (Run.exitCode next.isLocked).toUInt32
  else
    IO.sleep (min next.controller.interval 4294967295).toUInt32
    drive next limit

/-- The text for a refused command line. -/
def UsageFault.message : UsageFault → String
  | .unknownArgument => "unexpected argument found"
  | .missingValue => "a value is required"
  | .malformedValue => "invalid value"
  | .repeated => "the argument cannot be used multiple times"
  | .unexpectedValue => "unexpected value"
  | .help _ => ""

end PoolArbiter

open PoolArbiter in
def main (words : List String) : IO UInt32 := do
  let environment ← readVariableFile (← readEnvironment)
  let named :=
    match Arguments.parse words environment with
    | .ok arguments => arguments.config.getD Configuration.standardFile
    | .error _ => Configuration.standardFile
  let content ← readFile named
  let start := Startup.ofWords words environment fun _ => content
  match start with
  | .refused (.help long) => IO.print (Help.text environment long)
  | .refused fault => IO.eprintln ("error: " ++ fault.message)
  | .unloadable fault =>
      IO.eprintln ("Error: " ++ fault.step.message ++ ": " ++ fault.refusal.message)
  | .print document => IO.print document
  | .unprintable => IO.eprintln ("Error: " ++ Configuration.unprintableMessage)
  | .run controller arguments => return ← drive (Run.start controller arguments) arguments.rounds
  return start.exitCode.toUInt32
