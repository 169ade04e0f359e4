import PoolArbiter.CommandLine.Load
import PoolArbiter.CommandLine.Run

/-!
# The start of the program

What the program does is settled by its words, its environment and the files it
can read: it refuses the words, fails to load a configuration, prints it, or runs.
-/

namespace PoolArbiter

/-- What the program does. -/
inductive Startup where
  | refused (fault : UsageFault)
  | unloadable (fault : LoadFault)
  /-- It prints a document. -/
  | print (document : String)
  /-- The configuration has no document. -/
  | unprintable
  | run (controller : Controller) (arguments : Arguments)

namespace Startup

/-- Start with arguments that were accepted. -/
def withArguments (arguments : Arguments) (environment : Environment)
    (file : String → FileContent) : Startup :=
  match Configuration.load arguments environment file with
  | .error fault => .unloadable fault
  | .ok config =>
      if arguments.printConfig then
        match config.render? with
        | some document => .print document
        | none => .unprintable
      else
        .run (Controller.start config) arguments

/-- Start with the words of a command line. -/
def ofWords (words : List String) (environment : Environment)
    (file : String → FileContent) : Startup :=
  match Arguments.parse words environment with
  | .error fault => .refused fault
  | .ok arguments => withArguments arguments environment file

/-- The exit code, as far as it is settled at the start. -/
def exitCode : Startup → Nat
  | .refused (.help _) => 0
  | .refused _ => 2
  | .unloadable _ => 1
  | .print _ => 0
  | .unprintable => 1
  | .run _ _ => 0

end Startup

/-- The exit code of a run. -/
def Run.exitCode (locked : Bool) : Nat :=
  if locked then 1 else 0

end PoolArbiter
