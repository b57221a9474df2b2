import EntityDiagram.PathName
import EntityDiagram.Text.FileName
import EntityDiagram.Text.Quoted

/-!
# Why a path cannot be used

The system can refuse a path for what stands in its way, and some texts name no path at all.
-/

namespace EntityDiagram

inductive PathProblem where
  | notFound
  | notPermitted
  | alreadyExists
  | notDirectory
  | isDirectory
  | nameTooLong
  /-- Any other problem, by the code and the words of the system. -/
  | other (code : Nat) (wording : String)
deriving DecidableEq, Repr

namespace PathProblem

def code : PathProblem → Nat
  | notFound => 2
  | notPermitted => 13
  | alreadyExists => 17
  | notDirectory => 20
  | isDirectory => 21
  | nameTooLong => 36
  | other code _ => code

def wording : PathProblem → String
  | notFound => "No such file or directory"
  | notPermitted => "Permission denied"
  | alreadyExists => "File exists"
  | notDirectory => "Not a directory"
  | isDirectory => "Is a directory"
  | nameTooLong => "File name too long"
  | other _ wording => wording

/-- The problems that have a name of their own. -/
def named : List PathProblem :=
  [notFound, notPermitted, alreadyExists, notDirectory, isDirectory, nameTooLong]

def ofCode (code : Nat) (wording : String) : PathProblem :=
  (named.find? fun problem => problem.code == code).getD (.other code wording)

/-- The codes of problems that count as there being nothing at a path: no entry, no open file, no
directory on the way, and links that lead round. -/
def absenceCodes : List Nat := [2, 9, 20, 40]

end PathProblem

inductive PathFault where
  | refused (problem : PathProblem) (path : PathName)
  /-- The text has code points that no name has. -/
  | unwritable (fault : Text.SurrogateFault)
  /-- The text has a null character, which ends a name. -/
  | nullCharacter
deriving DecidableEq, Repr

def PathFault.message : PathFault → String
  | refused problem path =>
      "[Errno " ++ toString problem.code ++ "] " ++ problem.wording ++ ": " ++
        Text.quoted path.text
  | unwritable fault => fault.message
  | nullCharacter => "embedded null byte"

def PathFault.isAbsence : PathFault → Bool
  | refused problem _ => PathProblem.absenceCodes.contains problem.code
  | unwritable _ => true
  | nullCharacter => true

def systemBytes (text : Text) : Except PathFault (List UInt8) := do
  let bytes ← (Text.fileNameEncode text).mapError .unwritable
  if bytes.contains 0 then .error .nullCharacter else .ok bytes

end EntityDiagram
