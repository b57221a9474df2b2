import EntityDiagram.World

/-!
# Tasks

A task is a list of actions, carried out in order until one of them fails. An image is made by one
action and written by a later one, so that other tasks can act in between.
-/

namespace EntityDiagram

inductive Action where
  | print (text : Text)
  | makeParents (path : PathName)
  | writeText (path : PathName) (text : Text)
  | render (renderer : Renderer) (diagram : Text)
  /-- An image that was made elsewhere, or the failure to make it. -/
  | receive (outcome : Except Failure (List UInt8))
  | writeImage (path : PathName)
  | announce (path : PathName)
deriving Repr

def fileBytes (text : Text) : Except Failure (List UInt8) :=
  (Text.utf8Encode text).mapError fun fault => .fault (.surrogates fault)

/-- Takes a diagram for its image. -/
def Action.copy (diagram : Text) : Action := .receive (fileBytes diagram)

def Action.fail (failure : Failure) : Action := .receive (.error failure)

namespace World

variable {m : Type → Type} [Monad m]

/-- An operation on a path, as a part of the work. -/
def onPath {α : Type} (operation : m (Except PathFault α)) : ExceptT Failure m α :=
  ExceptT.mk do return (← operation).mapError .path

/-- Writes a text to a file, which is emptied before the text is looked at. -/
def writeText (world : World m) (path : PathName) (text : Text) : ExceptT Failure m Unit := do
  match fileBytes text with
  | .ok content => onPath (world.writeFile path content)
  | .error failure => do
      onPath (world.writeFile path [])
      throw failure

def render (world : World m) (renderer : Renderer) (diagram : Text) :
    ExceptT Failure m (List UInt8) := do
  let program ← world.program renderer.executable
  ExceptT.mk (pure (renderer.image program diagram))

/-- Carries out an action of a task that holds an image; the image that it holds then. -/
def act (world : World m) (image : List UInt8) : Action → ExceptT Failure m (List UInt8)
  | .print text => do
      world.print text
      return image
  | .makeParents path => do
      onPath (world.ensureDirectories path.parts.length path.parent)
      return image
  | .writeText path text => do
      world.writeText path text
      return image
  | .render renderer diagram => world.render renderer diagram
  | .receive outcome => ExceptT.mk (pure outcome)
  | .writeImage path => do
      onPath (world.writeFile path image)
      return image
  | .announce path => do
      world.log (.written path)
      return image

def actAll (world : World m) (image : List UInt8) : List Action → ExceptT Failure m Unit
  | [] => return
  | action :: rest => do world.actAll (← world.act image action) rest

end World

end EntityDiagram
