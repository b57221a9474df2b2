import EntityDiagram.Diagram.Full

/-!
# Recording relations

A recorder keeps the relations of what it has drawn. Emitting a structure adds its relations to
those recorded before; rendering models starts a new record.
-/

namespace EntityDiagram

structure Recorder where
  relations : List Relation
deriving Repr, Inhabited

namespace Recorder

def start : Recorder := ⟨[]⟩

variable {m : Type → Type} [Monad m]

def emit (naming : Naming m) (name : Text) (forest : Forest) (recorder : Recorder) :
    m (List Text × Recorder) := do
  let fields ← drawNodes naming name forest
  return (tableFragments name fields, ⟨recorder.relations ++ relationsOf name fields⟩)

/-- Draws models one by one, and records their relations. -/
def drawAll (naming : Naming m) : List EntityModel → Recorder → m (List Drawing × Recorder)
  | [], recorder => pure ([], recorder)
  | model :: rest, recorder => do
      let drawing ← Drawing.ofModel naming model
      let (drawings, recorder) ←
        drawAll naming rest ⟨recorder.relations ++ drawing.relations⟩
      return (drawing :: drawings, recorder)

/-- Renders the full diagram of models; what was recorded before is forgotten. -/
def render (naming : Naming m) (models : List EntityModel) (_ : Recorder) :
    m (Text × Recorder) := do
  let (drawings, recorder) ← drawAll naming models start
  return (escapeReserved (tablesText drawings ++ edgesText recorder.relations), recorder)

end Recorder

end EntityDiagram
