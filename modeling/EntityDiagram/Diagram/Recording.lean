import EntityDiagram.Diagram.Recorder

/-!
# Recording on the way

A recorder at work records a relation when the walk comes to its field, before anything that is
below the field. A name that is refused ends the walk, and what was recorded up to there stays
recorded.
-/

namespace EntityDiagram

/-- The same naming, where more can happen. -/
def Naming.lift {m n : Type → Type} [MonadLiftT m n] (naming : Naming m) : Naming n where
  entity name := liftM (naming.entity name)
  nested table field := liftM (naming.nested table field)

namespace Recording

section

variable {m : Type → Type} [Monad m] [MonadStateOf Recorder m]

/-- Records a relation behind those recorded before. -/
def note (relation : Relation) : m Unit :=
  modifyThe Recorder fun recorder => ⟨recorder.relations ++ [relation]⟩

mutual

def drawNode (naming : Naming m) (table : Text) : Node → m Field
  | ⟨name, kind, options, children⟩ =>
      if isScalarKind kind then do
        let constraint := constraintOf name options
        (columnRelations table name constraint).forM note
        return .column name kind.display constraint
      else do
        let target ← naming.nested table name
        note ⟨table, name, .text target, cardinalityOf kind⟩
        let fields ← drawChildren naming target children
        return .container name kind.display (cardinalityOf kind) target fields

def drawChildren (naming : Naming m) (table : Text) : Option (List Node) → m (List Field)
  | none => return []
  | some children => drawNodes naming table children

def drawNodes (naming : Naming m) (table : Text) : List Node → m (List Field)
  | [] => return []
  | node :: rest => do
      let field ← drawNode naming table node
      let fields ← drawNodes naming table rest
      return field :: fields

end

def emit (naming : Naming m) (name : Text) (forest : Forest) : m (List Text) :=
  tableFragments name <$> drawNodes naming name forest

def drawModel (naming : Naming m) (model : EntityModel) : m Drawing := do
  let name ← naming.entity model.name
  let fields ← drawNodes naming name model.forest
  return ⟨name, fields, model.instanceMethods.map Value.display,
    model.staticMethods.map Value.display⟩

/-- Starts a new record, and writes the edges that are recorded when all models are drawn. -/
def render (naming : Naming m) (models : List EntityModel) : m Text := do
  set Recorder.start
  let drawings ← models.mapM (drawModel naming)
  let recorder ← getThe Recorder
  return escapeReserved (tablesText drawings ++ edgesText recorder.relations)

end

end Recording

end EntityDiagram
