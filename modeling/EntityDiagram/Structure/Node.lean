import EntityDiagram.Schema.Descriptor

/-!
# Structure nodes

The normalised structure of a model is a forest of nodes. A node has a name, a type, options and
possibly children; having no children is not the same as having an empty list of them.
-/

namespace EntityDiagram

structure Node where
  name : Text
  kind : Value
  options : Options
  children : Option (List Node)
deriving Repr, Inhabited

/-- The nodes of one level. -/
abbrev Forest := List Node

namespace Node

/-- A parent that is created on demand: an embedded document without fields. -/
def fresh (name : Text) : Node :=
  ⟨name, .text embeddedKind, Options.none, some []⟩

def childList (node : Node) : Forest :=
  node.children.getD []

def child? (node : Node) (name : Text) : Option Node :=
  node.childList.find? fun child => child.name = name

end Node

end EntityDiagram
