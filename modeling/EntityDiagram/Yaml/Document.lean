import EntityDiagram.Yaml.Ending.Grammar
import EntityDiagram.Yaml.Ending.Lexer
import EntityDiagram.Yaml.ScalarValue

/-!
# From nodes to values

Collections are filled level by level: all scalars of a level are read before the collections of
the level are entered, and the first scalar without a value ends the reading. Before a mapping is
filled, the mappings that are merged into it are put in front of its own entries, and its value keys
become texts. Both stay so for the aliases of these nodes that are read afterwards, so the order of
reading is visible and is followed here. The values are put together when all scalars are read.
-/

namespace EntityDiagram.Yaml

/-! ### Merged mappings -/

/-- The entries of a mapping that are not merges. -/
def ownEntries (entries : List (Node × Node)) : List (Node × Node) :=
  entries.filter fun entry => entry.1.tag != .merge

mutual

def mergedEntries : List (Node × Node) → List (Node × Node)
  | [] => []
  | (key, value) :: rest =>
      if key.tag == .merge then entriesToMerge value ++ mergedEntries rest
      else mergedEntries rest

/-- The entries that a node gives when it is merged: those of a mapping, or those of the mappings of
a list, of which the last comes first. -/
def entriesToMerge : Node → List (Node × Node)
  | .scalar _ _ => []
  | .sequence _ items => entriesOfLists items
  | .mapping _ entries => mergedEntries entries ++ ownEntries entries

/-- The entries that the nodes of a list give, the last node first. -/
def entriesOfLists : List Node → List (Node × Node)
  | [] => []
  | item :: rest => entriesOfLists rest ++ entriesToMerge item

end

/-- All entries of a mapping: those that are merged into it and its own. -/
def allEntries (entries : List (Node × Node)) : List (Node × Node) :=
  mergedEntries entries ++ ownEntries entries

/-! ### Reading the scalars -/

/-- What has happened to the nodes so far. Nodes are told by their numbers, since only a node with a
number is met again, and mappings that are read as scalars by their places, since such a mapping has
a tag of its own. -/
structure Progress where
  merged : List Nat
  renamed : List Nat
  /-- The collections that are filled or about to be. -/
  entered : List Nat
  scalars : List (Origin × Scalar)
  /-- The collections to be filled next, the latest first. -/
  waiting : List Node

def Progress.start : Progress := ⟨[], [], [], [], []⟩

abbrev Fill (α : Type) := StateT Progress (Except LoadFault) α

def refuseNode {α : Type} (node : Node) (cause : ProblemCause) : Fill α :=
  throw (node.problem cause)

/-- Whether a node is among those of the given numbers; a node without a number is not. -/
def isAmong (node : Node) (numbers : List Nat) : Bool :=
  node.head.number.any numbers.contains

/-- Whether the value of a node is a collection, which no key can be. -/
def isCollectionTag : Tag → Bool
  | .map | .seq | .set | .omap | .pairs => true
  | _ => false

def renamedTag : Tag → Tag
  | .value => .str
  | tag => tag

/-- The value of the text of a node under a scalar tag. The nodes of timestamps have to be scalars
themselves. -/
def valueOfText (tag : Tag) (node : Node) (text : Text) : Except LoadFault Scalar :=
  let read {α : Type} (wrap : α → Scalar) (result : Except ScalarFault α) :
      Except LoadFault Scalar := (result.map wrap).mapError .scalar
  match tag with
  | .null => .ok .null
  | .bool => read .bool (truthValue text)
  | .int => read .int (integerValue text)
  | .float => read id (numberValue node.head.origin text)
  | .str => .ok (.text text)
  | .timestamp =>
      match node with
      | .scalar _ _ => read id (timestampValue text)
      | _ => .error (.scalar .notText)
  | .binary =>
      match binaryValue? text with
      | some bytes => .ok (.bytes bytes)
      | none => .error (node.problem .badBinary)
  | _ => .error (node.problem .undefinedTag)

mutual

/-- The text of a node that is read as a scalar: a mapping has that of its value key, if the key
has not become a text. -/
def scalarText? (progress : Progress) : Node → Option Text
  | .scalar _ text => some text
  | .sequence _ _ => none
  | .mapping head entries =>
      if isAmong (.mapping head entries) progress.merged then none
      else valueKeyText? progress entries

def valueKeyText? (progress : Progress) : List (Node × Node) → Option Text
  | [] => none
  | (key, value) :: rest =>
      if key.tag == .value && !isAmong key progress.renamed then
        scalarText? progress value
      else valueKeyText? progress rest

end

def scalarOf (progress : Progress) (tag : Tag) (node : Node) : Except LoadFault Scalar :=
  if tag == .other || tag == .merge || tag == .value then .error (node.problem .undefinedTag)
  else
    match scalarText? progress node with
    | some text => valueOfText tag node text
    | none => .error (node.problem .wrongNode)

/-- Reads a node under a scalar tag. The value of a mapping is kept. -/
def visitScalar (tag : Tag) (node : Node) : Fill Unit := do
  let progress ← get
  match node with
  | .mapping head _ =>
      if (progress.scalars.lookup head.origin).isNone then
        let value ← scalarOf progress tag node
        modify fun progress => { progress with scalars := (head.origin, value) :: progress.scalars }
  | _ => discard (scalarOf progress tag node)

/-- Lets a collection wait to be filled, unless it has been met before. -/
def enter (node : Node) : Fill Unit :=
  modify fun progress =>
    if isAmong node progress.entered then progress
    else
      { progress with
        entered := node.head.number.toList ++ progress.entered
        waiting := node :: progress.waiting }

/-- Meets a node: a scalar is read, a collection waits. -/
def visit (node : Node) : Fill Unit := do
  if isCollectionTag node.tag then enter node
  else if isAmong node (← get).renamed then visitScalar (renamedTag node.tag) node
  else visitScalar node.tag node

/-- Meets a key, which has to be a scalar; a value key has become a text. -/
def visitKey (node : Node) : Fill Unit := do
  if isCollectionTag node.tag then refuseNode node .keyNotScalar
  else visitScalar (renamedTag node.tag) node

def visitEntry (entry : Node × Node) : Fill Unit := do
  visitKey entry.1
  visit entry.2

mutual

/-- Carries out the merges among the entries of a mapping, and makes texts of its value keys. -/
def mergeEntries : List (Node × Node) → Fill Unit
  | [] => return
  | (key, value) :: rest => do
      if key.tag == .merge then mergeNode value
      else if key.tag == .value then
        modify fun progress =>
          { progress with renamed := key.head.number.toList ++ progress.renamed }
      mergeEntries rest

/-- Carries out the merges of a node that is merged itself. -/
def mergeNode : Node → Fill Unit
  | .scalar head text => refuseNode (.scalar head text) .badMerge
  | .sequence _ items => mergeItems items
  | .mapping head entries => do
      mergeEntries entries
      modify fun progress => { progress with merged := head.number.toList ++ progress.merged }

def mergeItems : List Node → Fill Unit
  | [] => return
  | item :: rest => do
      match item with
      | .mapping _ _ => mergeNode item
      | _ => refuseNode item .badMerge
      mergeItems rest

end

/-- Meets the entry of a mapping that is an item of ordered pairs. Its merges are carried out only
if the mapping was filled before. -/
def visitPair (node : Node) : Fill Unit := do
  match node with
  | .mapping _ entries =>
      let isMerged := isAmong node (← get).merged
      match if isMerged then allEntries entries else entries with
      | [(key, value)] =>
          if isMerged then visitScalarOrEnter (renamedTag key.tag) key else visit key
          visit value
      | _ => refuseNode node .wrongNode
  | _ => refuseNode node .wrongNode
where
  visitScalarOrEnter (tag : Tag) (node : Node) : Fill Unit :=
    if isCollectionTag tag then enter node else visitScalar tag node

/-- Fills a collection: all nodes in it are met. -/
def fill (node : Node) : Fill Unit := do
  match node.tag, node with
  | .seq, .sequence _ items => items.forM visit
  | .omap, .sequence _ items => items.forM visitPair
  | .pairs, .sequence _ items => items.forM visitPair
  | .map, .mapping _ entries => fillMapping entries
  | .set, .mapping _ entries => fillMapping entries
  | _, _ => refuseNode node .wrongNode
where
  fillMapping (entries : List (Node × Node)) : Fill Unit := do
    mergeNode node
    (allEntries entries).forM visitEntry

/-- Fills the collections that wait, and then those that are met in them, a level deeper. -/
def fillLevels : (fuel : Nat) → Fill Unit
  | 0 => return
  | fuel + 1 => do
      let progress ← get
      if !progress.waiting.isEmpty then
        set { progress with waiting := [] }
        progress.waiting.reverse.forM fill
        fillLevels fuel

/-- Reads all scalars of a document. -/
def readScalars (root : Node) : Fill Unit := do
  visit root
  fillLevels root.levels

/-! ### Putting the values together -/

def scalarRead (progress : Progress) (node : Node) : Except LoadFault Scalar :=
  match node, progress.scalars.lookup node.head.origin with
  | .mapping _ _, some value => .ok value
  | _, _ => scalarOf progress (renamedTag node.tag) node

mutual

def valueOf (progress : Progress) : Node → Except LoadFault Value
  | .scalar head text => Value.scalar <$> scalarRead progress (.scalar head text)
  | .sequence head items =>
      match head.tag with
      | .seq => Value.list <$> valuesOf progress [] items
      | .omap | .pairs => Value.list <$> pairsOf progress [] items
      | _ => .error ((Node.sequence head items).problem .wrongNode)
  | .mapping head entries =>
      match head.tag with
      | .map => do
          let (merged, own) ← entriesOf progress entries
          return .map (Mapping.ofPairs (merged ++ own))
      | .set => do
          let (merged, own) ← entriesOf progress entries
          return .set ((Mapping.ofPairs (merged ++ own)).map Prod.fst)
      | _ => Value.scalar <$> scalarRead progress (.mapping head entries)

/-- The values of nodes behind those that are known, which are kept in reverse. -/
def valuesOf (progress : Progress) (done : List Value) : List Node → Except LoadFault (List Value)
  | [] => .ok done.reverse
  | item :: rest => do valuesOf progress ((← valueOf progress item) :: done) rest

def pairsOf (progress : Progress) (done : List Value) : List Node → Except LoadFault (List Value)
  | [] => .ok done.reverse
  | .mapping head entries :: rest => do
      match ← singlePairs progress entries with
      | [pair] => pairsOf progress (pair :: done) rest
      | _ => .error ((Node.mapping head entries).problem .wrongNode)
  | item :: _ => .error (item.problem .wrongNode)

/-- The entries of a mapping as pairs: those that are merged into it and its own. -/
def singlePairs (progress : Progress) : List (Node × Node) → Except LoadFault (List Value)
  | [] => .ok []
  | (key, value) :: rest => do
      let here ←
        if key.tag == .merge then mergedPairs progress value
        else return [.pair (← valueOf progress key) (← valueOf progress value)]
      return here ++ (← singlePairs progress rest)

def mergedPairs (progress : Progress) : Node → Except LoadFault (List Value)
  | .mapping _ entries => singlePairs progress entries
  | .sequence _ items => pairsOfLists progress items
  | .scalar head text => .error ((Node.scalar head text).problem .badMerge)

def pairsOfLists (progress : Progress) : List Node → Except LoadFault (List Value)
  | [] => .ok []
  | item :: rest => do
      let behind ← pairsOfLists progress rest
      return behind ++ (← mergedPairs progress item)

/-- The entries of a mapping: those that are merged into it and its own. -/
def entriesOf (progress : Progress) :
    List (Node × Node) → Except LoadFault (List (Scalar × Value) × List (Scalar × Value))
  | [] => .ok ([], [])
  | (key, value) :: rest => do
      if key.tag == .merge then
        let here ← entriesMerged progress value
        let (merged, own) ← entriesOf progress rest
        return (here ++ merged, own)
      else
        let entry := (← scalarRead progress key, ← valueOf progress value)
        let (merged, own) ← entriesOf progress rest
        return (merged, entry :: own)

def entriesMerged (progress : Progress) : Node → Except LoadFault (List (Scalar × Value))
  | .mapping _ entries => do
      let (merged, own) ← entriesOf progress entries
      return merged ++ own
  | .sequence _ items => entriesMergedOf progress items
  | .scalar head text => .error ((Node.scalar head text).problem .badMerge)

def entriesMergedOf (progress : Progress) :
    List Node → Except LoadFault (List (Scalar × Value))
  | [] => .ok []
  | item :: rest => do
      let behind ← entriesMergedOf progress rest
      return behind ++ (← entriesMerged progress item)

end

/-! ### Texts -/

/-- The value of a document with the given root. -/
def documentValue (root : Node) : Except LoadFault Value := do
  let (_, progress) ← (readScalars root).run Progress.start
  valueOf progress root

/-- The value of the text of a file; a text without a document has none. -/
def load (text : Text.FileText) : Except LoadFault (Option Value) := do
  let cursor ← Cursor.ofFile text
  match ← documentOf (tokensOf cursor) with
  | none => return none
  | some root => return some (← documentValue root)

end EntityDiagram.Yaml
