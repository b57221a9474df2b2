import EntityDiagram.Diagram.Reserved
import EntityDiagram.Diagram.Source
import EntityDiagram.Model

/-!
# The minimal diagram

Entities are bare tables, each followed by an edge for every reference among its top-level fields.
-/

namespace EntityDiagram

def referenceLine? (name : Text) (node : Node) : Option Text :=
  if node.options.ref.isTruthy then
    some (Source.edgeLine name node.options.ref.display)
  else none

def minimalLines (model : EntityModel) : List Text :=
  Source.bareTable model.name.display ::
    model.forest.filterMap (referenceLine? model.name.display)

def minimalDiagram (models : List EntityModel) : Text :=
  escapeReserved (Text.join (models.flatMap minimalLines))

/-- The minimal diagram of models, if their names can be written. -/
def writeMinimal (models : List EntityModel) : Except Fault Text := do
  models.forM fun model => discard model.name.written
  return minimalDiagram models

end EntityDiagram
