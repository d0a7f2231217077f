/-!
# Errors in YAML text

Why a text is no YAML document of plain data. Each cause has the headline that is shown for it.
-/

namespace Rollup.Yaml

inductive Cause
  | unprintable
  | simpleKey
  | unexpectedCharacter
  | sequenceEntryNotAllowed
  | mappingKeyNotAllowed
  | mappingValueNotAllowed
  | directive
  | aliasName
  | anchorName
  | tag
  | tagStart
  | blockScalar
  | doubleQuoted
  | quoted
  | noDocumentStart
  | repeatedDirective
  | unsupportedVersion
  | repeatedHandle
  | undefinedHandle
  | noBlockNode
  | noFlowNode
  | blockSequence
  | blockMapping
  | flowSequence
  | flowMapping
  | secondDocument
  | undefinedAlias (name : String)
  | repeatedAnchor (name : String)
  | unhashableKey
  | badMerge
  | unknownTag (tag : String)
  | notAScalar
  | notASequence
  | notAMapping
  | badPairs
  | badBinary
  deriving DecidableEq, Repr

def Cause.headline : Cause → String
  | unprintable => "unacceptable character: special characters are not allowed"
  | simpleKey => "while scanning a simple key"
  | unexpectedCharacter => "while scanning for the next token"
  | sequenceEntryNotAllowed => "sequence entries are not allowed here"
  | mappingKeyNotAllowed => "mapping keys are not allowed here"
  | mappingValueNotAllowed => "mapping values are not allowed here"
  | directive => "while scanning a directive"
  | aliasName => "while scanning an alias"
  | anchorName => "while scanning an anchor"
  | tag => "while scanning a tag"
  | tagStart => "while parsing a tag"
  | blockScalar => "while scanning a block scalar"
  | doubleQuoted => "while scanning a double-quoted scalar"
  | quoted => "while scanning a quoted scalar"
  | noDocumentStart => "expected '<document start>'"
  | repeatedDirective => "found duplicate YAML directive"
  | unsupportedVersion => "found incompatible YAML document (version 1.* is required)"
  | repeatedHandle => "duplicate tag handle"
  | undefinedHandle => "while parsing a node"
  | noBlockNode => "while parsing a block node"
  | noFlowNode => "while parsing a flow node"
  | blockSequence => "while parsing a block collection"
  | blockMapping => "while parsing a block mapping"
  | flowSequence => "while parsing a flow sequence"
  | flowMapping => "while parsing a flow mapping"
  | secondDocument => "expected a single document in the stream"
  | undefinedAlias name => "found undefined alias '" ++ name ++ "'"
  | repeatedAnchor name => "found duplicate anchor '" ++ name ++ "'; first occurrence"
  | unhashableKey => "while constructing a mapping"
  | badMerge => "while constructing a mapping"
  | unknownTag name => "could not determine a constructor for the tag '" ++ name ++ "'"
  | notAScalar => "expected a scalar node"
  | notASequence => "expected a sequence node"
  | notAMapping => "expected a mapping node"
  | badPairs => "while constructing pairs"
  | badBinary => "failed to decode base64 data"

inductive Error
  /-- The text is no YAML, or not of plain data. -/
  | malformed (cause : Cause)
  /-- A scalar that claims to be a number is none. -/
  | badNumber
  /-- A number without any digits. -/
  | emptyNumber
  /-- A scalar that claims to be a truth value is none. -/
  | badTruthValue
  /-- A scalar that claims to be a timestamp is none. -/
  | badTimestamp
  /-- A date or time that does not exist. -/
  | noSuchTime
  /-- An escape by the number of a character that does not exist. -/
  | noSuchCharacter (code : Nat)
  deriving DecidableEq, Repr

def Error.headline : Error → String
  | malformed cause => cause.headline
  | badNumber => "invalid number"
  | emptyNumber => "empty number"
  | badTruthValue => "invalid truth value"
  | badTimestamp => "invalid timestamp"
  | noSuchTime => "no such date or time"
  | noSuchCharacter _ => "no such character"

end Rollup.Yaml
