import EntityDiagram.PathName
import EntityDiagram.Value

/-!
# What the user asks for

An option that was given a double dash has no value, which is told from an empty one. Models are
asked for by the keys that they have in the document.
-/

namespace EntityDiagram.CommandLine

structure Request where
  input : Option PathName
  outputDir : Option PathName
  entities : List Value
  randomNames : Bool
  emitSource : Bool
  executable : Option Text
  debug : Bool
deriving Repr

/-- The renderer that is called unless another one is given. -/
def standardExecutable : Text := "d2"

/-- The name that an option asks for; without a value it asks for an empty list, which no model has
as its name. -/
def requestedName : Option Text → Value
  | some name => .text name
  | none => .list []

/-- The options of a run that gives nothing but its input. -/
def Request.ofInput (input : PathName) : Request where
  input := some input
  outputDir := some (PathName.ofText ".")
  entities := []
  randomNames := false
  emitSource := false
  executable := some standardExecutable
  debug := false

end EntityDiagram.CommandLine
