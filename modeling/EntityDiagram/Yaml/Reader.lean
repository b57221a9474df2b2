import EntityDiagram.Yaml.Node
import EntityDiagram.Yaml.Steps
import EntityDiagram.Yaml.Token

/-!
# Reading tokens

Tokens are read one after another, so that a mistake in the grammar is noticed before a fault of the
text behind it. What is read of a node are its properties, the anchors that are known, and the
nodes that aliases stand for.
-/

namespace EntityDiagram.Yaml

/-- What is left to read, with the anchors that are known so far. A node that is still being read
has an anchor without a node. -/
structure Reader where
  tokens : List Token
  fault : Option LoadFault
  handles : List (String × String)
  anchors : List (String × Option Node)
  /-- How many nodes with anchors are being read. -/
  depth : Nat
  /-- How many nodes have a number. -/
  count : Nat

abbrev Read (α : Type) := Steps Reader α

/-- What stands next; the end of the text has a token of its own. -/
def Reader.next (reader : Reader) : Token := reader.tokens.head?.getD ⟨.streamEnd, 0, 0⟩

def nextToken : Read Token := do
  let reader ← get
  match reader.tokens, reader.fault with
  | [], some fault => throw fault
  | _, _ => return reader.next

def nextKind : Read TokenKind := return (← nextToken).kind

def passToken : Read Unit :=
  modify fun reader => { reader with tokens := reader.tokens.drop 1 }

def Token.origin (token : Token) : Origin := ⟨token.line, token.column⟩

def refuseAt {α : Type} (token : Token) (cause : ProblemCause) : Read α :=
  throw (.at cause token.line token.column)

def refuse {α : Type} (cause : ProblemCause) : Read α := do
  refuseAt (← nextToken) cause

/-- Passes a token of the given kind, or refuses what stands there. -/
def expect (kind : TokenKind) (cause : ProblemCause) : Read Unit := do
  if (← nextKind) == kind then passToken else refuse cause

def emptyScalar : Read Node := do
  return .scalar ⟨.null, (← nextToken).origin, none⟩ []

structure Properties where
  anchor : Option String
  tag : Option (Option String × String)

def Properties.isEmpty (properties : Properties) : Bool :=
  properties.anchor.isNone && properties.tag.isNone

/-- Reads the properties of a node: at most one anchor and one tag, in either order. -/
def readProperties : Read Properties := do
  match ← nextKind with
  | .anchor name =>
      passToken
      match ← nextKind with
      | .tag handle suffix => passToken; return ⟨some name, some (handle, suffix)⟩
      | _ => return ⟨some name, none⟩
  | .tag handle suffix =>
      passToken
      match ← nextKind with
      | .anchor name => passToken; return ⟨some name, some (handle, suffix)⟩
      | _ => return ⟨none, some (handle, suffix)⟩
  | _ => return ⟨none, none⟩

/-- The full text of a tag in front of the node that starts at a token. -/
def tagText (first : Token) : Option (Option String × String) → Read (Option String)
  | none => return none
  | some (none, suffix) => return some suffix
  | some (some handle, suffix) => do
      match (← get).handles.lookup handle with
      | some start => return some (start ++ suffix)
      | none => refuseAt first .undefinedHandle

/-- The tag of a node whose form has a tag of its own; a lone mark leaves that tag. -/
def tagOr (default : Tag) : Option String → Tag
  | none => default
  | some "!" => default
  | some uri => .ofUri uri

/-- Announces the anchor of the node that starts at a token, which no other node may have. -/
def announce (first : Token) : Option String → Read Unit
  | none => return
  | some name => do
      if ((← get).anchors.lookup name).isSome then refuseAt first .duplicateAnchor
      else
        modify fun reader =>
          { reader with
            anchors := (name, none) :: reader.anchors
            depth := reader.depth + 1 }

def fulfil (anchor : Option String) (node : Node) : Read Node := do
  match anchor with
  | none => return node
  | some name =>
      modify fun reader =>
        { reader with
          anchors := reader.anchors.map fun entry =>
            if entry.1 == name then (name, some node) else entry
          depth := reader.depth - 1 }
      return node

/-- The number of a new node, if the node can be met again. -/
def newNumber : Read (Option Nat) := do
  let reader ← get
  if reader.depth == 0 then return none
  else
    set { reader with count := reader.count + 1 }
    return some reader.count

/-- The node that an alias stands for. A node in which its own alias stands has no end. -/
def resolveAlias (name : String) : Read Node := do
  match (← get).anchors.lookup name with
  | some (some node) => passToken; return node
  | some none => throw .cyclic
  | none => refuse .undefinedAlias

end EntityDiagram.Yaml
