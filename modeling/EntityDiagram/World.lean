import EntityDiagram.Catalog
import EntityDiagram.FileSystem
import EntityDiagram.Log
import EntityDiagram.Renderer

/-!
# The world around the program

The program acts on the world by a few operations. One world is made of values: a file system, the
programs in it, and what was printed and logged so far. The other one is that of the process, in the
outer layer.
-/

namespace EntityDiagram

inductive EntryKind where
  | directory
  | file
deriving DecidableEq, Repr

structure World (m : Type → Type) where
  print : Text → m Unit
  log : LogEntry → m Unit
  look : PathName → m (Except PathFault EntryKind)
  readFile : PathName → m (Except PathFault (List UInt8))
  makeDirectory : PathName → m (Except PathFault Unit)
  writeFile : PathName → List UInt8 → m (Except PathFault Unit)
  /-- The program of a name, if it can be run. -/
  program : Text → m (Option Program)

namespace World

variable {m : Type → Type} [Monad m]

def find (world : World m) (path : PathName) : m Found := do
  match ← world.look path with
  | .error fault => return if fault.isAbsence then .nothing else .refused fault
  | .ok _ =>
      match ← world.readFile path with
      | .error fault => return .refused fault
      | .ok content => return .file content

/-- Accepts that a directory could not be made if it is there. -/
def acceptDirectory (world : World m) (path : PathName) (refusal : PathFault) :
    m (Except PathFault Unit) := do
  match ← world.look path with
  | .ok .directory => return .ok ()
  | .ok .file => return .error refusal
  | .error fault => return .error (if fault.isAbsence then refusal else fault)

/-- Makes a directory whose parent is there, unless it is there itself. -/
def ensureDirectory (world : World m) (path : PathName) : m (Except PathFault Unit) := do
  match ← world.makeDirectory path with
  | .error (.refused problem path) =>
      if problem == .notFound then return .error (.refused problem path)
      else world.acceptDirectory path (.refused problem path)
  | outcome => return outcome

/-- Makes a directory and those above it, unless they are there. The path has at most `depth`
parts. -/
def ensureDirectories (world : World m) : (depth : Nat) → PathName → m (Except PathFault Unit)
  | 0, path => world.ensureDirectory path
  | depth + 1, path => do
      match ← world.ensureDirectory path with
      | .error (.refused .notFound _) =>
          match ← world.ensureDirectories depth path.parent with
          | .ok () => world.ensureDirectory path
          | refusal => return refusal
      | outcome => return outcome

end World

/-! ### A world of values -/

/-- A file system with programs, and what was printed and logged. -/
structure Scene where
  files : FileSystem
  programs : List (Location × Program)
  printed : Text
  logged : List LogEntry

namespace Scene

def ofFiles (files : FileSystem) (programs : List (Location × Program)) : Scene :=
  ⟨files, programs, [], []⟩

def onPath {α : Type} (path : PathName) (operation : List UInt8 → Except PathProblem α) :
    Except PathFault α := do
  let bytes ← systemBytes path.text
  (operation bytes).mapError fun problem => .refused problem path

/-- Changes the file system at a path, unless that is refused. -/
def change (path : PathName) (operation : FileSystem → List UInt8 → Except PathProblem FileSystem) :
    StateM Scene (Except PathFault Unit) := do
  let scene ← get
  match onPath path (operation scene.files) with
  | .ok files =>
      set { scene with files := files }
      return .ok ()
  | .error fault => return .error fault

def look (scene : Scene) (path : PathName) : Except PathFault EntryKind := do
  match ← onPath path scene.files.look with
  | .directory => return .directory
  | .file _ | .closed => return .file

def readFile (scene : Scene) (path : PathName) : Except PathFault (List UInt8) := do
  match ← onPath path scene.files.look with
  | .directory => throw (.refused .isDirectory path)
  | .closed => throw (.refused .notPermitted path)
  | .file content => return content

/-- The program of a name. Only a name with a slash is a path; no program is found by a bare
name. -/
def program? (scene : Scene) (name : Text) : Option Program := do
  if !name.contains '/' then none
  let bytes ← (systemBytes name).toOption
  let location ← (scene.files.resolve bytes).toOption
  if scene.files.isDirectory location then none
  scene.programs.lookup location

def world : World (StateM Scene) where
  print text := modify fun scene => { scene with printed := scene.printed ++ text }
  log entry := modify fun scene => { scene with logged := scene.logged ++ [entry] }
  look path := return (← get).look path
  readFile path := return (← get).readFile path
  makeDirectory path := change path FileSystem.makeDirectory
  writeFile path content := change path fun files bytes => files.writeFile bytes content
  program name := return (← get).program? name

end Scene

end EntityDiagram
