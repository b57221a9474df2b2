/-!
# What can be wrong with a YAML text

A text that cannot be read has one problem at a line and a column.
-/

namespace EntityDiagram.Yaml

/-- Why a text is not well formed. -/
inductive ProblemCause where
  | unreadableCharacter (code : Nat)
  | entryNotAllowed
  | keyNotAllowed
  | valueNotAllowed
  | missingColon
  | badCharacter
  | badDirective
  | badAnchor
  | badTag
  | badBlockHeader
  | badEscape
  | separatorInScalar
  | unclosedScalar
  | unmatchedBracket
  | expectedContent
  | expectedBlockEnd
  | expectedFlowEntry
  | expectedDocument
  | duplicateDirective
  | unsupportedVersion
  | undefinedHandle
  | undefinedAlias
  | duplicateAnchor
  | severalDocuments
  | badMerge
  | keyNotScalar
  | undefinedTag
  | wrongNode
  | badBinary
deriving DecidableEq, Repr

def ProblemCause.wording : ProblemCause → String
  | unreadableCharacter code => "special characters are not allowed: code point " ++ toString code
  | entryNotAllowed => "sequence entries are not allowed here"
  | keyNotAllowed => "mapping keys are not allowed here"
  | valueNotAllowed => "mapping values are not allowed here"
  | missingColon => "could not find expected ':'"
  | badCharacter => "found a character that cannot start any token"
  | badDirective => "found a malformed directive"
  | badAnchor => "expected letters or digits in an anchor or alias"
  | badTag => "found a malformed tag"
  | badBlockHeader => "found a malformed header of a block scalar"
  | badEscape => "found an unknown escape"
  | separatorInScalar => "found a document separator in a quoted scalar"
  | unclosedScalar => "found the end of the text in a quoted scalar"
  | unmatchedBracket => "found a bracket that closes nothing"
  | expectedContent => "expected the content of a node"
  | expectedBlockEnd => "expected the end of a block"
  | expectedFlowEntry => "expected a comma or a closing bracket"
  | expectedDocument => "expected the start of a document"
  | duplicateDirective => "found a duplicate directive"
  | unsupportedVersion => "found a document of an unsupported version"
  | undefinedHandle => "found an undefined tag handle"
  | undefinedAlias => "found an undefined alias"
  | duplicateAnchor => "found a duplicate anchor"
  | severalDocuments => "expected a single document"
  | badMerge => "expected a mapping or a list of mappings to merge"
  | keyNotScalar => "found a key that is a collection"
  | undefinedTag => "could not determine a value for the tag"
  | wrongNode => "found a node of another kind than its tag asks for"
  | badBinary => "failed to decode binary data"

structure Problem where
  cause : ProblemCause
  line : Nat
  column : Nat
deriving DecidableEq, Repr

/-- The message of a problem; lines and columns are counted from one. -/
def Problem.message (problem : Problem) : String :=
  problem.cause.wording ++ ", line " ++ toString (problem.line + 1) ++ ", column " ++
    toString (problem.column + 1)

end EntityDiagram.Yaml
