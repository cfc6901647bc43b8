/-!
# Tokens

The words of a data file, after layout has become brackets: indentation opens
and closes block collections, and a key is announced before it is read.
-/

namespace SchemaGen.Yaml

/-- How a scalar is written. -/
inductive Style where
  | plain
  | quoted
  | block
  deriving Repr, DecidableEq

/-- A token of a data file. -/
inductive Token where
  | versionDirective (major minor : Nat)
  | tagDirective (handle address : String)
  | documentStart
  | documentEnd
  | blockSequenceStart
  | blockMappingStart
  | blockEnd
  | flowSequenceStart
  | flowSequenceEnd
  | flowMappingStart
  | flowMappingEnd
  | blockEntry
  | flowEntry
  | key
  | value
  | alias (name : String)
  | anchor (name : String)
  | tag (handle suffix : String)
  | scalar (style : Style) (text : String)
  deriving Repr, DecidableEq

end SchemaGen.Yaml
