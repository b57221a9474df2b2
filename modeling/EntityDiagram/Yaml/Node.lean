import EntityDiagram.Value
import EntityDiagram.Yaml.Fault
import EntityDiagram.Yaml.Tag

/-!
# Nodes of YAML

A document is a tree of nodes, whose tags are resolved. An alias stands for a copy of the node that
its anchor names.
-/

namespace EntityDiagram.Yaml

structure NodeHead where
  tag : Tag
  origin : Origin
  /-- What tells the node from others. Only a node that has an anchor, or that stands in one that
  has, can be met again, and only such a node has a number. -/
  number : Option Nat
deriving Repr

inductive Node where
  | scalar (head : NodeHead) (text : Text)
  | sequence (head : NodeHead) (items : List Node)
  | mapping (head : NodeHead) (entries : List (Node × Node))
deriving Repr

namespace Node

def head : Node → NodeHead
  | scalar head _ => head
  | sequence head _ => head
  | mapping head _ => head

def tag (node : Node) : Tag := node.head.tag

def problem (node : Node) (cause : ProblemCause) : LoadFault :=
  .at cause node.head.origin.line node.head.origin.column

mutual

/-- How many levels a node has: its own, and those of the nodes in it. -/
def levels : Node → Nat
  | scalar _ _ => 1
  | sequence _ items => itemLevels items + 1
  | mapping _ entries => entryLevels entries + 1

def itemLevels : List Node → Nat
  | [] => 0
  | item :: rest => max item.levels (itemLevels rest)

def entryLevels : List (Node × Node) → Nat
  | [] => 0
  | (key, value) :: rest => max (max key.levels value.levels) (entryLevels rest)

end

end Node

end EntityDiagram.Yaml
