import EntityDiagram.CommandLine.Program
import Std.Time.DateTime.Timestamp

/-!
# The command line

The outer layer of the program: the world of the process, with its files, its clock and its source
of random numbers. It has no renderer at hand.
-/

namespace EntityDiagram.CommandLine

def errorCode : IO.Error → UInt32
  | .alreadyExists _ code _ | .interrupted _ code _ | .noFileOrDirectory _ code _
  | .invalidArgument _ code _ | .permissionDenied _ code _ | .resourceExhausted _ code _
  | .inappropriateType _ code _ | .noSuchThing _ code _ | .otherError code _
  | .resourceBusy code _ | .resourceVanished code _ | .unsupportedOperation code _
  | .hardwareFault code _ | .unsatisfiedConstraints code _ | .illegalOperation code _
  | .protocolError code _ | .timeExpired code _ => code
  | .unexpectedEof | .userError _ => 0

/-- The problem that an error of the system stands for. -/
def problemOf (error : IO.Error) : PathProblem :=
  .ofCode (errorCode error).toNat (toString error)

/-- Carries out an operation on a path. -/
def attempt {α : Type} (path : PathName) (operation : String → IO α) :
    IO (Except PathFault α) := do
  match systemBytes path.text with
  | .error fault => return .error fault
  | .ok _ =>
      match ← (operation path.text.asString).toBaseIO with
      | .ok result => return .ok result
      | .error error => return .error (.refused (problemOf error) path)

/-- What stands at a path: reading a directory like a file is a problem of its own. -/
def kindAt (name : String) : IO EntryKind := do
  match ← (IO.FS.readBinFile name).toBaseIO with
  | .ok _ => return .file
  | .error error =>
      if problemOf error = .isDirectory then return .directory else throw error

def processWorld : World IO where
  print text := IO.print text.asString
  log entry := IO.eprint entry.text.asString
  look path := attempt path kindAt
  readFile path := attempt path fun name => do return (← IO.FS.readBinFile name).toList
  makeDirectory path := attempt path fun name => IO.FS.createDir name
  writeFile path content := attempt path fun name => IO.FS.writeBinFile name ⟨content.toArray⟩
  program _ := return none

def presentStamp : IO String := do
  let now ← Std.Time.Timestamp.now
  return (Moment.ofEpoch now.toMillisecondsSinceUnixEpoch.val.toNat).stamp

def freshSource : IO StdGen := do
  let bytes ← IO.getRandomBytes 8
  return mkStdGen (bytes.toList.foldl (fun seed byte => seed * 256 + byte.toNat) 0)

/-- The exit code of the process. A failure that the program does not report is shown last. -/
def finish : Ending → IO UInt32
  | .exit exit => do
      IO.print exit.stdout.asString
      IO.eprint exit.stderr.asString
      return UInt32.ofNat exit.code
  | .run (.ok code) => return UInt32.ofNat code
  | .run (.error failure) => do
      IO.eprintln failure.message.asString
      return 1

def run (arguments : List String) : IO UInt32 := do
  let stamp ← presentStamp
  let source ← freshSource
  finish (← execute processWorld (arguments.map Text.ofString) (Text.ofString stamp) source)

end EntityDiagram.CommandLine

def main (arguments : List String) : IO UInt32 :=
  EntityDiagram.CommandLine.run arguments
