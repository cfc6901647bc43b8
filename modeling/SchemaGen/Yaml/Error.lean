/-!
# Faults of data files

Why a text is not a data file, or why its document is not the value asked for.
-/

namespace SchemaGen.Yaml

/-- A fault of a data file. -/
inductive Fault where
  /-- A character that no data file may hold. -/
  | forbiddenCharacter
  /-- A character that starts no token. -/
  | strayCharacter
  /-- A key that must be followed by a colon is not. -/
  | missingColon
  /-- A block entry, key or value where the block structure admits none. -/
  | misplacedIndicator
  /-- A tab where only spaces may indent. -/
  | tabIndent
  /-- A quoted scalar that does not end. -/
  | unclosedQuote
  /-- An escape sequence that means nothing. -/
  | badEscape
  /-- A block scalar header with anything but its indicators. -/
  | badBlockHeader
  /-- An anchor or alias without a proper name. -/
  | badAnchor
  /-- A tag that is not formed properly. -/
  | badTag
  /-- A tag handle that no directive declares. -/
  | unknownHandle
  /-- A directive that is malformed, unknown or repeated. -/
  | badDirective
  /-- A version other than 1.1 and 1.2. -/
  | badVersion
  /-- A token where the grammar admits none of its kind. -/
  | unexpectedToken
  /-- More than one document. -/
  | severalDocuments
  /-- An alias without an anchor before it. -/
  | unknownAnchor
  /-- Collections nested too deeply. -/
  | tooDeep
  /-- Aliases followed too often. -/
  | tooManyAliases
  /-- A key that occurs twice in a mapping. -/
  | repeatedKey
  /-- A scalar that its core tag does not admit. -/
  | tagMismatch
  /-- An integer beyond 64 bits. -/
  | integerRange
  /-- A merge key whose value is no mapping and no sequence of mappings. -/
  | badMerge
  /-- A document of another shape than the one asked for. -/
  | wrongShape
  deriving Repr, DecidableEq

/-- A short description of the fault. -/
def Fault.message : Fault → String
  | .forbiddenCharacter => "control characters are not allowed"
  | .strayCharacter => "found a character that cannot start any token"
  | .missingColon => "could not find the colon of a key"
  | .misplacedIndicator => "a block entry, key or value is not allowed here"
  | .tabIndent => "found a tab where indentation is expected"
  | .unclosedQuote => "a quoted scalar does not end"
  | .badEscape => "found an unknown escape"
  | .badBlockHeader => "malformed block scalar header"
  | .badAnchor => "malformed anchor or alias"
  | .badTag => "malformed tag"
  | .unknownHandle => "undefined tag handle"
  | .badDirective => "malformed directive"
  | .badVersion => "incompatible version"
  | .unexpectedToken => "unexpected token"
  | .severalDocuments => "more than one document"
  | .unknownAnchor => "unknown anchor"
  | .tooDeep => "nested too deeply"
  | .tooManyAliases => "too many aliases"
  | .repeatedKey => "duplicate key"
  | .tagMismatch => "the scalar does not fit its tag"
  | .integerRange => "integer out of range"
  | .badMerge => "a merge key needs a mapping or a list of mappings"
  | .wrongShape => "unexpected shape"

end SchemaGen.Yaml
