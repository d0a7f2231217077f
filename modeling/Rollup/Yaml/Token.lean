import Rollup.Yaml.Error

/-!
# YAML tokens

The tokens of a YAML text. Indentation is turned into tokens too: a block collection has a start and
an end, and an implicit key has a mark in front of it.
-/

namespace Rollup.Yaml

/-- A tag as it is written: perhaps with a handle, which stands for a longer beginning. -/
structure TagName where
  handle? : Option String
  suffix : String
  deriving DecidableEq, Repr

inductive Directive
  | version (major : Nat)
  | tag (handle expansion : String)
  | other
  deriving DecidableEq, Repr

inductive Token
  | directive (d : Directive)
  | documentStart
  | documentEnd
  | streamEnd
  | blockSequenceStart
  | blockMappingStart
  | blockEnd
  | flowSequenceStart
  | flowSequenceEnd
  | flowMappingStart
  | flowMappingEnd
  | flowEntry
  | blockEntry
  | key
  | value
  | alias (name : String)
  | anchor (name : String)
  | tag (name : TagName)
  | scalar (text : String) (plain : Bool)
  /-- Here the text goes on with something that is no token. -/
  | unreadable (e : Error)
  deriving DecidableEq, Repr

end Rollup.Yaml
