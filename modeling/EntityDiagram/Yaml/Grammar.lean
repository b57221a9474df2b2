import EntityDiagram.Yaml.Reader

/-!
# The grammar of YAML

Nodes, their parts and the marks of documents are read by mutual recursion. The fuel bounds the
nesting of calls.
-/

namespace EntityDiagram.Yaml

/-- Where a node stands, which decides on the collections that may stand there. -/
inductive Position where
  | flow
  | block
  /-- The value or the key of a block mapping, where a sequence need not be indented. -/
  | blockEntry
deriving DecidableEq

/-- The tokens in front of which an entry of a block mapping is empty. -/
def endsBlockPart (kind : TokenKind) : Bool :=
  kind == .key || kind == .value || kind == .blockEnd

/-- The tag of a scalar: the one that is written, or the one that its form has. -/
def scalarTag (uri : Option String) (text : Text) (plain : Bool) : Tag :=
  match uri with
  | some "!" => implicitTag text
  | some uri => .ofUri uri
  | none => if plain then implicitTag text else .str

/-- Passes the comma in front of a part of a flow collection, unless the part is the first one. -/
def expectComma (first : Bool) : Read Unit :=
  if first then return else expect .flowEntry .expectedFlowEntry

mutual

/-- Reads a node with its properties. The content has to start before the anchor is announced. -/
def readNode : (fuel : Nat) → Position → Read Node
  | 0, _ => outOfFuel
  | fuel + 1, position => do
      let first ← nextToken
      if let .alias name := first.kind then resolveAlias name
      else
        let properties ← readProperties
        let uri ← tagText first properties.tag
        discard nextToken
        announce first properties.anchor
        fulfil properties.anchor (← readContent fuel position first properties uri)

def readContent : (fuel : Nat) → Position → (first : Token) → Properties → Option String →
    Read Node
  | 0, _, _, _, _ => outOfFuel
  | fuel + 1, position, first, properties, uri => do
      let number ← newNumber
      let head (tag : Tag) : NodeHead := ⟨tag, first.origin, number⟩
      let sequence (items : List Node) : Node := .sequence (head (tagOr .seq uri)) items
      let mapping (entries : List (Node × Node)) : Node :=
        .mapping (head (tagOr .map uri)) entries
      match ← nextKind with
      | .scalar text plain =>
          passToken
          return .scalar (head (scalarTag uri text plain)) text
      | .flowSequenceStart => passToken; return sequence (← readFlowItems fuel [])
      | .flowMappingStart => passToken; return mapping (← readFlowEntries fuel [])
      | kind =>
          if kind == .blockEntry && position == .blockEntry then
            return sequence (← readItems fuel false [])
          else if kind == .blockSequenceStart && position != .flow then
            passToken
            let items ← readItems fuel true []
            expect .blockEnd .expectedBlockEnd
            return sequence items
          else if kind == .blockMappingStart && position != .flow then
            passToken
            let entries ← readEntries fuel []
            expect .blockEnd .expectedBlockEnd
            return mapping entries
          else if properties.isEmpty then refuse .expectedContent
          else return .scalar (head (scalarTag uri [] true)) []

/-- Reads the items of a block sequence behind those that were read before, which are kept in
reverse. A sequence that is not indented also ends at a key or value. -/
def readItems : (fuel : Nat) → (indented : Bool) → (done : List Node) → Read (List Node)
  | 0, _, _ => outOfFuel
  | fuel + 1, indented, done => do
      if (← nextKind) == .blockEntry then
        passToken
        let kind ← nextKind
        if kind == .blockEntry || kind == .blockEnd || (!indented && endsBlockPart kind) then
          readItems fuel indented ((← emptyScalar) :: done)
        else readItems fuel indented ((← readNode fuel .block) :: done)
      else return done.reverse

def readEntries : (fuel : Nat) → (done : List (Node × Node)) →
    Read (List (Node × Node))
  | 0, _ => outOfFuel
  | fuel + 1, done => do
      if (← nextKind) == .key then
        passToken
        let key ← readBlockPart fuel
        let value ← readBlockValue fuel
        readEntries fuel ((key, value) :: done)
      else return done.reverse

/-- Reads the value of an entry of a block mapping, if a colon stands there. -/
def readBlockValue : (fuel : Nat) → Read Node
  | 0 => outOfFuel
  | fuel + 1 => do
      if (← nextKind) == .value then
        passToken
        readBlockPart fuel
      else emptyScalar

/-- Reads the key or the value of an entry of a block mapping. -/
def readBlockPart : (fuel : Nat) → Read Node
  | 0 => outOfFuel
  | fuel + 1 => do
      if endsBlockPart (← nextKind) then emptyScalar else readNode fuel .blockEntry

/-- Reads the items of a flow sequence. A pair among them is a mapping with one entry. -/
def readFlowItems : (fuel : Nat) → (done : List Node) → Read (List Node)
  | 0, _ => outOfFuel
  | fuel + 1, done => do
      if (← nextKind) == .flowSequenceEnd then
        passToken
        return done.reverse
      else
        expectComma done.isEmpty
        let token ← nextToken
        if token.kind == .key then
          passToken
          let key ← readFlowPart fuel .flowSequenceEnd
          let value ← readFlowValue fuel .flowSequenceEnd
          let pair := .mapping ⟨.map, token.origin, ← newNumber⟩ [(key, value)]
          readFlowItems fuel (pair :: done)
        else if token.kind == .flowSequenceEnd then
          passToken
          return done.reverse
        else readFlowItems fuel ((← readNode fuel .flow) :: done)

/-- Reads the entries of a flow mapping. An entry without a colon has no value. -/
def readFlowEntries : (fuel : Nat) → (done : List (Node × Node)) →
    Read (List (Node × Node))
  | 0, _ => outOfFuel
  | fuel + 1, done => do
      if (← nextKind) == .flowMappingEnd then
        passToken
        return done.reverse
      else
        expectComma done.isEmpty
        match ← nextKind with
        | .key =>
            passToken
            let key ← readFlowPart fuel .flowMappingEnd
            let value ← readFlowValue fuel .flowMappingEnd
            readFlowEntries fuel ((key, value) :: done)
        | .flowMappingEnd =>
            passToken
            return done.reverse
        | _ =>
            let key ← readNode fuel .flow
            let value ← emptyScalar
            readFlowEntries fuel ((key, value) :: done)

/-- Reads the key of an entry of a flow collection, which may be empty. -/
def readFlowPart : (fuel : Nat) → (closing : TokenKind) → Read Node
  | 0, _ => outOfFuel
  | fuel + 1, closing => do
      let kind ← nextKind
      if kind == .value || kind == .flowEntry || kind == closing then emptyScalar
      else readNode fuel .flow

/-- Reads the value of an entry of a flow collection, if a colon stands there. -/
def readFlowValue : (fuel : Nat) → (closing : TokenKind) → Read Node
  | 0, _ => outOfFuel
  | fuel + 1, closing => do
      if (← nextKind) == .value then
        passToken
        let kind ← nextKind
        if kind == .flowEntry || kind == closing then emptyScalar else readNode fuel .flow
      else emptyScalar

end

/-- The handles that every document has, unless it gives them another meaning. -/
def standardHandles : List (String × String) := [("!", "!"), ("!!", tagDomain)]

def readDirectives : (fuel : Nat) → (versioned : Bool) → List (String × String) →
    Read (List (String × String))
  | 0, _, _ => outOfFuel
  | fuel + 1, versioned, handles => do
      match ← nextKind with
      | .versionDirective major _ =>
          if versioned then refuse .duplicateDirective
          else if major != 1 then refuse .unsupportedVersion
          else
            passToken
            readDirectives fuel true handles
      | .tagDirective handle start =>
          if (handles.lookup handle).isSome then refuse .duplicateDirective
          else
            passToken
            readDirectives fuel versioned ((handle, start) :: handles)
      | .unknownDirective =>
          passToken
          readDirectives fuel versioned handles
      | _ => return handles

def skipDocumentEnds : (fuel : Nat) → Read Unit
  | 0 => outOfFuel
  | fuel + 1 => do
      if (← nextKind) == .documentEnd then
        passToken
        skipDocumentEnds fuel

def readDocumentContent (fuel : Nat) : Read Node := do
  match ← nextKind with
  | .versionDirective _ _ | .tagDirective _ _ | .unknownDirective | .documentStart
  | .documentEnd | .streamEnd => emptyScalar
  | _ => readNode fuel .block

/-- Reads a document that starts with directives or with a mark. -/
def readMarkedDocument (fuel : Nat) : Read (Option Node) := do
  skipDocumentEnds fuel
  if (← nextKind) == .streamEnd then return none
  else
    let handles ← readDirectives fuel false []
    modify fun reader => { reader with handles := handles ++ standardHandles }
    expect .documentStart .expectedDocument
    return some (← readDocumentContent fuel)

/-- Reads the first document of a text; its mark may be missing. -/
def readFirstDocument (fuel : Nat) : Read (Option Node) := do
  match ← nextKind with
  | .versionDirective _ _ | .tagDirective _ _ | .unknownDirective | .documentStart
  | .streamEnd => readMarkedDocument fuel
  | _ => return some (← readNode fuel .block)

/-- Complains about a document behind the only one, when its start is well formed. -/
def refuseDocument {α : Type} (fuel : Nat) : Read α := do
  discard (readDirectives fuel false [])
  expect .documentStart .expectedDocument
  throw (.at .severalDocuments 0 0)

/-- Reads the only document of a text, if there is one. -/
def readOnlyDocument (fuel : Nat) : Read (Option Node) := do
  let root ← readFirstDocument fuel
  skipDocumentEnds fuel
  if (← nextKind) == .streamEnd then return root else refuseDocument fuel

end EntityDiagram.Yaml
