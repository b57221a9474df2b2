import EntityDiagram.FileSystem.Fault

/-!
# The file system

Directories and files around the current directory. A path is followed part by part: every part but
the last has to lead to a directory that is there, and two points lead back from the directory
that was reached. There are no links. A file that is closed can be seen, but neither read nor
written.
-/

namespace EntityDiagram

/-- Where names start: at the root, or at a directory so many levels above the current one. -/
inductive Base where
  | root
  | above (levels : Nat)
deriving DecidableEq, Repr

/-- A location: the names that lead there, the last one first. -/
structure Location where
  base : Base
  names : List (List UInt8)
deriving DecidableEq, Repr

inductive Entry where
  | directory
  | file (content : List UInt8)
  /-- A file that the program is not permitted to open. -/
  | closed
deriving DecidableEq, Repr

/-- The entries below the bases; the bases themselves are directories. -/
structure FileSystem where
  entries : List (Location × Entry)
deriving Repr

def longestName : Nat := 255

def longestPath : Nat := 4095

namespace Location

def current : Location := ⟨.above 0, []⟩

/-- The directory that holds a location; the root holds itself. -/
def parent : Location → Location
  | ⟨base, _ :: names⟩ => ⟨base, names⟩
  | ⟨.above levels, []⟩ => ⟨.above (levels + 1), []⟩
  | ⟨.root, []⟩ => ⟨.root, []⟩

def child (location : Location) (name : List UInt8) : Location :=
  { location with names := name :: location.names }

end Location

/-! ### Following paths -/

inductive PathPart where
  | here
  | back
  | name (bytes : List UInt8)
deriving DecidableEq, Repr

def slashByte : UInt8 := 0x2F

def pointByte : UInt8 := 0x2E

def PathPart.ofBytes (bytes : List UInt8) : PathPart :=
  if bytes = [] || bytes = [pointByte] then .here
  else if bytes = [pointByte, pointByte] then .back
  else .name bytes

def splitBytes (current : List UInt8) : List UInt8 → List (List UInt8)
  | [] => [current.reverse]
  | byte :: rest =>
      if byte = slashByte then current.reverse :: splitBytes [] rest
      else splitBytes (byte :: current) rest

/-- Where a path starts, and its parts. -/
def startOf (bytes : List UInt8) : Location × List PathPart :=
  (if bytes.head? = some slashByte then ⟨.root, []⟩ else Location.current,
    (splitBytes [] bytes).map .ofBytes)

namespace FileSystem

def entry? (files : FileSystem) (location : Location) : Option Entry :=
  if location.names.isEmpty then some .directory else files.entries.lookup location

def isDirectory (files : FileSystem) (location : Location) : Bool :=
  files.entry? location == some .directory

def put (files : FileSystem) (location : Location) (entry : Entry) : FileSystem :=
  ⟨(location, entry) :: files.entries.filter fun other => other.1 != location⟩

def advance (files : FileSystem) (location : Location) : PathPart → Except PathProblem Location
  | .here => .ok location
  | .back => .ok location.parent
  | .name bytes =>
      if longestName < bytes.length then .error .nameTooLong
      else if (files.entry? (location.child bytes)).isNone then .error .notFound
      else .ok (location.child bytes)

def follow (files : FileSystem) (location : Location) :
    List PathPart → Except PathProblem Location
  | [] => .ok location
  | part :: rest =>
      if files.isDirectory location then do
        follow files (← files.advance location part) rest
      else .error .notDirectory

def resolve (files : FileSystem) (bytes : List UInt8) : Except PathProblem Location :=
  if bytes.isEmpty then .error .notFound
  else if longestPath < bytes.length then .error .nameTooLong
  else
    let (start, parts) := startOf bytes
    files.follow start parts

/-- The directory that the last part of a path belongs to, and that part. -/
def resolveParent (files : FileSystem) (bytes : List UInt8) :
    Except PathProblem (Location × PathPart) := do
  if longestPath < bytes.length then throw .nameTooLong
  let (start, parts) := startOf bytes
  let directory ← files.follow start parts.dropLast
  if !files.isDirectory directory then throw .notDirectory
  let last := parts.getLast?.getD .here
  match last with
  | .name bytes => if longestName < bytes.length then throw .nameTooLong
  | _ => pure ()
  return (directory, last)

/-! ### Operations -/

def makeDirectory (files : FileSystem) (bytes : List UInt8) : Except PathProblem FileSystem := do
  match ← files.resolveParent bytes with
  | (directory, .name name) =>
      match files.entry? (directory.child name) with
      | none => return files.put (directory.child name) .directory
      | some _ => throw .alreadyExists
  | _ => throw .alreadyExists

/-- Gives a file a content; the file need not be there. -/
def writeFile (files : FileSystem) (bytes : List UInt8) (content : List UInt8) :
    Except PathProblem FileSystem := do
  match ← files.resolveParent bytes with
  | (directory, .name name) =>
      match files.entry? (directory.child name) with
      | some .directory => throw .isDirectory
      | some .closed => throw .notPermitted
      | _ => return files.put (directory.child name) (.file content)
  | _ => throw .isDirectory

def look (files : FileSystem) (bytes : List UInt8) : Except PathProblem Entry := do
  let location ← files.resolve bytes
  return (files.entry? location).getD .directory

end FileSystem

end EntityDiagram
