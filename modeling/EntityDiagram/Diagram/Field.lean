import EntityDiagram.Diagram.Source
import EntityDiagram.Model

/-!
# Fields of a diagram

In a diagram a structure node is a column or a container. A container has a table of its own: its
name is drawn from a naming when the walk comes to it, before the names of the containers in it. A
naming may count, draw random numbers or refuse a name, as its monad allows.
-/

namespace EntityDiagram

inductive Constraint where
  | unique
  | foreignKey (target : Value)
  | primaryKey
deriving Repr

def Constraint.word : Constraint → String
  | unique => "unique"
  | foreignKey _ => "foreign_key"
  | primaryKey => "primary_key"

def primaryKeyField : Text := "_id"

/-- Uniqueness wins over a reference, and a reference over the primary key. -/
def constraintOf (name : Text) (options : Options) : Option Constraint :=
  if options.unique then some .unique
  else if options.ref.isTruthy then some (.foreignKey options.ref)
  else if name = primaryKeyField then some .primaryKey
  else none

inductive Cardinality where
  | oneToOne
  | oneToMany
deriving DecidableEq, Repr

def Cardinality.name : Cardinality → String
  | oneToOne => "one-to-one"
  | oneToMany => "one-to-many"

/-- A single embedded document is one; every other container can hold many. -/
def cardinalityOf (kind : Value) : Cardinality :=
  if kind.isText embeddedKind then .oneToOne else .oneToMany

/-- A field of a table. The table of a container has the fields in it; without fields it is not
drawn. -/
inductive Field where
  | column (name kind : Text) (constraint : Option Constraint)
  | container (name kind : Text) (cardinality : Cardinality) (table : Text) (fields : List Field)
deriving Repr, Inhabited

/-- A way to name the tables of entities, and those below the fields of a table. -/
structure Naming (m : Type → Type) where
  entity : Scalar → m Text
  nested : (table field : Text) → m Text

/-- Entities bear their own names, and nested tables are named by a function of the table and the
field. -/
def Naming.ofFunction (name : Text → Text → Text) : Naming Id where
  entity := Scalar.display
  nested := name

mutual

def drawNode {m : Type → Type} [Monad m] (naming : Naming m) (table : Text) :
    Node → m Field
  | ⟨name, kind, options, children⟩ =>
      if isScalarKind kind then
        pure (.column name kind.display (constraintOf name options))
      else do
        let target ← naming.nested table name
        let fields ← drawChildren naming target children
        pure (.container name kind.display (cardinalityOf kind) target fields)

def drawChildren {m : Type → Type} [Monad m] (naming : Naming m) (table : Text) :
    Option (List Node) → m (List Field)
  | none => pure []
  | some children => drawNodes naming table children

def drawNodes {m : Type → Type} [Monad m] (naming : Naming m) (table : Text) :
    List Node → m (List Field)
  | [] => pure []
  | node :: rest => do
      let field ← drawNode naming table node
      let fields ← drawNodes naming table rest
      pure (field :: fields)

end

end EntityDiagram
