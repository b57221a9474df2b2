import EntityDiagram.Yaml.Fault

/-!
# Tokens of YAML

The indentation of blocks becomes tokens of its own, so that the structure of a text is a matter
of brackets.
-/

namespace EntityDiagram.Yaml

inductive TokenKind where
  | versionDirective (major minor : Nat)
  | tagDirective (handle uri : String)
  | unknownDirective
  | documentStart
  | documentEnd
  | streamEnd
  | blockSequenceStart
  | blockMappingStart
  | blockEnd
  | flowSequenceStart
  | flowSequenceEnd
  | flowMappingStart
  | flowMappingEnd
  | flowEntry
  | blockEntry
  | key
  | value
  | alias (name : String)
  | anchor (name : String)
  /-- A tag with its handle; a tag without one is complete. -/
  | tag (handle : Option String) (suffix : String)
  | scalar (text : Text) (plain : Bool)
deriving DecidableEq, Repr

structure Token where
  kind : TokenKind
  line : Nat
  column : Nat
deriving DecidableEq, Repr

/-- The tokens that can be read, and what ends the reading behind them unless the text does. -/
structure Tokens where
  list : List Token
  fault : Option LoadFault
deriving Repr

end EntityDiagram.Yaml
