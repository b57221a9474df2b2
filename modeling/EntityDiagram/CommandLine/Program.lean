import EntityDiagram.CommandLine.Arguments
import EntityDiagram.Generation

/-!
# The program

The program reads its arguments and generates the diagrams. Its exit code is zero after success, one
after a failure that it reports in its log, and two after a mistake in the arguments. Any other
failure ends the program.
-/

namespace EntityDiagram.CommandLine

inductive Ending where
  /-- The arguments ask for no run. -/
  | exit (exit : Exit)
  /-- The run has an exit code, or ended with a failure. -/
  | run (outcome : Except Failure Nat)
deriving Repr

variable {m : Type → Type} [Monad m]

/-- The exit code of a run. A failure that is reported is logged. -/
def exitCode (world : World m) : Except Failure (List PathName) → m (Except Failure Nat)
  | .ok _ => return .ok 0
  | .error failure => do
      if failure.isReported then
        world.log (.failed failure)
        return .ok 1
      else return .error failure

def runRequest (world : World m) (request : Request) (stamp : Text) (source : StdGen) :
    m (Except Failure Nat) := do
  exitCode world (← (generate world request stamp source (requestedRendering request)).run)

def execute (world : World m) (arguments : List Text) (stamp : Text) (source : StdGen) :
    m Ending := do
  match parseArguments arguments with
  | .error exit => return .exit exit
  | .ok request => return .run (← runRequest world request stamp source)

end EntityDiagram.CommandLine
