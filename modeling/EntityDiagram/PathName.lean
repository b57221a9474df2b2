import EntityDiagram.Text

/-!
# Path names

A path is a root and its parts. Empty parts and lone points vanish; two points stay, since they
may lead over a link. Exactly two slashes in front are a root of their own.
-/

namespace EntityDiagram

/-- A path: nothing, one slash or two slashes, and the parts behind them. -/
structure PathName where
  root : Text
  parts : List Text
deriving DecidableEq, Repr, Inhabited

namespace PathName

def splitSlashes (current : Text) : Text → List Text
  | [] => [current.reverse]
  | c :: rest =>
      if c = '/' then current.reverse :: splitSlashes [] rest else splitSlashes (c :: current) rest

def partsOf (text : Text) : List Text :=
  (splitSlashes [] text).filter fun part => !part.isEmpty && part != "."

def rootOf (text : Text) : Text :=
  match (text.takeWhile (· == CodePoint.char '/')).length with
  | 0 => []
  | 2 => "//"
  | _ => "/"

def ofText (text : Text) : PathName := ⟨rootOf text, partsOf text⟩

/-- The text of a path; the path without parts is a point. -/
def text (path : PathName) : Text :=
  if path.root.isEmpty && path.parts.isEmpty then "."
  else path.root ++ Text.joinWith "/" path.parts

/-- A path below a directory, unless it has a root itself. -/
def join (directory : PathName) (text : Text) : PathName :=
  if (rootOf text).isEmpty then { directory with parts := directory.parts ++ partsOf text }
  else ofText text

/-- The path without its last part. -/
def parent (path : PathName) : PathName := { path with parts := path.parts.dropLast }

def name (path : PathName) : Text := path.parts.getLast?.getD []

/-- A file name without its suffix, which starts at the last point that is neither the first nor
the last character. -/
def stem (name : Text) : Text :=
  let reversed := name.reverse
  let suffix := reversed.takeWhile (· != CodePoint.char '.')
  let front := (reversed.drop (suffix.length + 1)).reverse
  if suffix.isEmpty || suffix.length == reversed.length || front.isEmpty then name else front

def withSuffix (path : PathName) (suffix : Text) : PathName :=
  { path with parts := path.parts.dropLast ++ [stem path.name ++ suffix] }

end PathName

end EntityDiagram
