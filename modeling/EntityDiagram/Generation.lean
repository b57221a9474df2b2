import EntityDiagram.CommandLine.Request
import EntityDiagram.Diagram.Full
import EntityDiagram.Diagram.Minimal
import EntityDiagram.Diagram.TableName
import EntityDiagram.Task

/-!
# Generating the diagrams

One run draws the minimal and the full diagram of the models. The two variants are independent
tasks: each may print its diagram, write its source and render its image. Both come to their end
before the run answers, and a failure of the minimal variant is reported first.
-/

namespace EntityDiagram

open CommandLine (Request)

inductive Variant where
  | minimal
  | full
deriving DecidableEq, Repr

def Variant.label : Variant → String
  | minimal => "minimal-erd-"
  | full => "full-erd-"

def Variant.imagePath (variant : Variant) (directory : PathName) (stamp : Text) : PathName :=
  directory.join (variant.label ++ stamp ++ ".svg")

def sourcePath (image : PathName) : PathName := image.withSuffix ".d2"

abbrev Rendering := (diagram : Text) → (path : PathName) → List Action

/-- Makes an image and writes it to its path. -/
def saveImage (making : Action) (path : PathName) : List Action :=
  [making, .makeParents path, .writeImage path, .announce path]

def renderTo (renderer : Renderer) : Rendering := fun diagram path =>
  saveImage (.render renderer diagram) path

def requestedRendering (request : Request) : Rendering :=
  match request.executable with
  | some executable => renderTo ⟨executable, RenderOptions.standard⟩
  | none => fun _ _ => [.fail (.missing .executable)]

def preparation (request : Request) (diagram : Text) (path : PathName) : List Action :=
  (if request.debug then [.print (diagram ++ "\n")] else []) ++
    (if request.emitSource then
      [.makeParents (sourcePath path), .writeText (sourcePath path) diagram]
    else [])

def variantActions (request : Request) (rendering : Rendering) (diagram : Text)
    (path : PathName) : List Action :=
  preparation request diagram path ++ rendering diagram path

/-- The full diagram of a run, with random names if they are asked for. -/
def requestedDiagram (request : Request) (source : StdGen) (models : List EntityModel) :
    Except Fault Text :=
  if request.randomNames then do
    let (drawings, _) ← (models.mapM (Drawing.ofModel randomNaming)).run source
    return drawingsText drawings
  else do
    let drawings ← models.mapM (Drawing.ofModel hashedNaming)
    return drawingsText drawings

def variantDiagram (request : Request) (source : StdGen) (models : List EntityModel) :
    Variant → Except Fault Text
  | .minimal => writeMinimal models
  | .full => requestedDiagram request source models

/-- The path of a variant's image, and the actions of its task. -/
def variantPlan (request : Request) (stamp : Text) (rendering : Rendering)
    (diagram : Except Fault Text) (variant : Variant) :
    Except Failure (PathName × List Action) := do
  let diagram ← diagram.mapError .fault
  match request.outputDir with
  | none => throw (.missing .outputDir)
  | some directory =>
      let path := variant.imagePath directory stamp
      return (path, variantActions request rendering diagram path)

section Run

variable {m : Type → Type} [Monad m]

/-- Carries out the task of a variant, and gives the path of its image. -/
def runVariant (world : World m) (request : Request) (stamp : Text) (rendering : Rendering)
    (diagram : Except Fault Text) (variant : Variant) : ExceptT Failure m PathName := do
  let (path, actions) ← ExceptT.mk (pure (variantPlan request stamp rendering diagram variant))
  world.actAll [] actions
  return path

/-- The first failure of the minimal and the full variant, or the paths of both images. -/
def combine (minimal full : Except Failure PathName) : Except Failure (List PathName) := do
  let first ← minimal
  let second ← full
  return [first, second]

def drawModels (world : World m) (request : Request) (stamp : Text) (source : StdGen)
    (rendering : Rendering) (models : List EntityModel) : m (Except Failure (List PathName)) := do
  let run (variant : Variant) : m (Except Failure PathName) :=
    (runVariant world request stamp rendering (variantDiagram request source models variant)
      variant).run
  let minimal ← run .minimal
  let full ← run .full
  return combine minimal full

def readRequested (world : World m) (request : Request) : ExceptT Failure m Mapping := do
  match request.input with
  | none => throw (.missing .input)
  | some path =>
      let found ← world.find path
      ExceptT.mk (pure (readModels path found))

/-- Collects the models of the input, and logs those that were collected when that is asked for. -/
def collectRequested (world : World m) (request : Request) :
    ExceptT Failure m (List EntityModel) := do
  let models ← readRequested world request
  let (collected, failure) := collectModels models (namesOr models request.entities)
  if request.debug then collected.forM fun model => world.log (.collected model)
  match failure with
  | some failure => throw failure
  | none => return collected

def generate (world : World m) (request : Request) (stamp : Text) (source : StdGen)
    (rendering : Rendering) : ExceptT Failure m (List PathName) := do
  world.log .started
  let models ← collectRequested world request
  ExceptT.mk (drawModels world request stamp source rendering models)

end Run

end EntityDiagram
