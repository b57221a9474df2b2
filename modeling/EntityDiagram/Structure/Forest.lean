import EntityDiagram.Fault
import EntityDiagram.Structure.Node

/-!
# Growing a forest from paths

A dotted path is inserted segment by segment: the first node of the segment's name is found or a
fresh one is added last, and the last segment's node takes the type, the options and the children
that the descriptor gives. A fault in a nested schema leaves the nodes that were made before it.
-/

namespace EntityDiagram

/-- Applies a change to the first node of a name, which is added last when there is none. -/
def Forest.update (name : Text) (change : Node → Node) : Forest → Forest
  | [] => [change (Node.fresh name)]
  | node :: rest =>
      if node.name = name then change node :: rest
      else node :: Forest.update name change rest

/-- Applies a change to the node at the end of a path, with parents created on demand. -/
def Forest.updatePath (change : Node → Node) : List Text → Forest → Forest
  | [], forest => forest
  | [name], forest => forest.update name change
  | name :: next :: rest, forest =>
      forest.update name fun node =>
        { node with children := some (Forest.updatePath change (next :: rest) node.childList) }

inductive Growth where
  | keep
  /-- An empty list of children becomes absent. -/
  | prune
  | replace (children : Forest)
deriving Repr

def Growth.apply : Growth → Option Forest → Option Forest
  | keep, children => children
  | prune, children => if children.getD [] matches [] then none else children
  | replace children, _ => some children

def Node.declare (kind : Value) (options : Options) (growth : Growth) (node : Node) : Node :=
  { node with
    kind := kind
    options := options.settle
    children := growth.apply node.children }

/-- The node that stands for the element of an array of plain values. -/
def itemNode (kind : Value) (options : Options) : Node :=
  ⟨"item", if kind.isTruthy then kind else .text unknownKind, options.settle, none⟩

/-- The change that a descriptor with known growth makes at the end of its path. -/
def Descriptor.change (growth : Growth) : Descriptor → Node → Node
  | .missing, node => node
  | .typed kind options _ _, node => node.declare kind options growth

mutual

/-- What a descriptor makes of a node's children, with the fault that stopped it. An own schema
wins over the element of an array, an element's schema over its `item` node. -/
def Descriptor.growth : Descriptor → Growth × Option Fault
  | .missing => (.keep, some .missingDescriptor)
  | .typed kind _ schema element =>
      if kind.isText arrayKind then
        match element.elementGrowth with
        | (fromElement, some fault) => (fromElement, some fault)
        | (fromElement, none) => schemaGrowth fromElement fromElement schema
      else schemaGrowth .prune .keep schema

/-- What the element of an array makes of the array's children. -/
def Descriptor.elementGrowth : Descriptor → Growth × Option Fault
  | .missing => (.keep, none)
  | .typed kind options schema _ => schemaGrowth (.replace [itemNode kind options]) .keep schema

/-- What a schema makes of a node's children, with the growth where there is no schema and that
where the schema has a fault. -/
def schemaGrowth (absent faulty : Growth) :
    Option (List (Text × Descriptor)) → Growth × Option Fault
  | none => (absent, none)
  | some paths =>
      match growForest [] paths with
      | .ok forest => (.replace forest, none)
      | .error fault => (faulty, some fault)

def growForest (forest : Forest) : List (Text × Descriptor) → Except Fault Forest
  | [] => .ok forest
  | (path, descriptor) :: rest =>
      match descriptor.growth with
      | (growth, none) =>
          growForest (forest.updatePath (descriptor.change growth) (Text.segments path)) rest
      | (_, some fault) => .error fault

end

/-- Inserts one path; after a fault the forest has what was made before it. -/
def Forest.insert (forest : Forest) (path : List Text) (descriptor : Descriptor) :
    Forest × Option Fault :=
  match path with
  | [] => (forest, some .emptyPath)
  | _ =>
      let (growth, fault) := descriptor.growth
      (forest.updatePath (descriptor.change growth) path, fault)

def buildForest (paths : Paths) : Except Fault Forest :=
  growForest [] paths

end EntityDiagram
