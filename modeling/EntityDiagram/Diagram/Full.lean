import EntityDiagram.Diagram.Reserved
import EntityDiagram.Diagram.Table

/-!
# The full diagram

Every entity is drawn with all its nested structures. The first table of an entity also lists its
methods. Tables of one entity are parted by two blank lines, entities by one, and the edges follow
after all tables. Reserved words are escaped in the assembled text.
-/

namespace EntityDiagram

structure Drawing where
  name : Text
  fields : List Field
  instanceMethods : List Text
  staticMethods : List Text
deriving Repr

namespace Drawing

/-- Draws a model, with a name for itself and for each nested table. -/
def ofModel {m : Type → Type} [Monad m] (naming : Naming m) (model : EntityModel) : m Drawing := do
  let name ← naming.entity model.name
  let fields ← drawNodes naming name model.forest
  return ⟨name, fields, model.instanceMethods.map Value.display,
    model.staticMethods.map Value.display⟩

def tables (drawing : Drawing) : List Table :=
  tablesOf drawing.name drawing.fields

def relations (drawing : Drawing) : List Relation :=
  relationsOf drawing.name drawing.fields

def methodLines (drawing : Drawing) : List Text :=
  drawing.instanceMethods.map (Source.methodLine · "instanceMethod") ++
    drawing.staticMethods.map (Source.methodLine · "staticMethod")

/-- The text of an entity's own table, with its methods after its columns. -/
def ownFragment (drawing : Drawing) : Text :=
  Source.table drawing.name
    (drawing.fields.map (Column.line ∘ Field.toColumn) ++ drawing.methodLines)

def fragments (drawing : Drawing) : List Text :=
  drawing.ownFragment ::
    (nestedTables drawing.fields).map fun table => Source.table table.name table.lines

def text (drawing : Drawing) : Text :=
  Text.joinWith "\n\n" drawing.fragments

end Drawing

/-- The texts of a table and of those below it, without methods. -/
def tableFragments (name : Text) (fields : List Field) : List Text :=
  (tablesOf name fields).map fun table => Source.table table.name table.lines

def tablesText (drawings : List Drawing) : Text :=
  Text.joinWith "\n" (drawings.map Drawing.text)

def edgesText (relations : List Relation) : Text :=
  Text.join (relations.map Relation.line)

def drawingsText (drawings : List Drawing) : Text :=
  escapeReserved (tablesText drawings ++ edgesText (drawings.flatMap Drawing.relations))

def drawPurely (naming : Text → Text → Text) (model : EntityModel) : Drawing :=
  Id.run (Drawing.ofModel (Naming.ofFunction naming) model)

def fullDiagram (naming : Text → Text → Text) (models : List EntityModel) : Text :=
  drawingsText (models.map (drawPurely naming))

def fullRelations (naming : Text → Text → Text) (models : List EntityModel) :
    List Relation :=
  (models.map (drawPurely naming)).flatMap Drawing.relations

end EntityDiagram
