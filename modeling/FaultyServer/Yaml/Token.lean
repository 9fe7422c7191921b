import FaultyServer.Yaml.Source

/-!
# YAML tokens

The smallest meaningful parts of a YAML text, each with the positions where it begins and ends, and
the ways in which a text can fail to be YAML.
-/

namespace FaultyServer.Yaml

/-- How a scalar is written. -/
inductive ScalarStyle
  | plain
  | singleQuoted
  | doubleQuoted
  | literal
  | folded
  deriving DecidableEq

/-- The bytes of a tag, or of a part of one. -/
abbrev TagBytes := List UInt8

/-- A part of a YAML text. -/
inductive Token
  | versionDirective (major minor : Nat)
  | tagDirective (handle : List Char) (start : TagBytes)
  | documentStart
  | documentEnd
  | blockSequenceStart
  | blockMappingStart
  | blockEnd
  | flowSequenceStart
  | flowSequenceEnd
  | flowMappingStart
  | flowMappingEnd
  | blockEntry
  | flowEntry
  | key
  | value
  | reference (name : List Char)
  | anchor (name : List Char)
  | tag (handle : List Char) (suffix : TagBytes)
  | scalar (text : List Char) (style : ScalarStyle)
  | streamEnd
  deriving DecidableEq

/-- A token and where it begins and ends. -/
structure Located where
  token : Token
  start : Mark
  finish : Mark
  deriving DecidableEq

/-- Why a text is not a single YAML document. -/
inductive SyntaxFault
  /-- A character that no YAML text may hold. -/
  | forbiddenCharacter
  /-- A character that starts no token. -/
  | unexpectedCharacter
  /-- A key without the colon that its place in the line requires. -/
  | missingColon
  /-- An entry, key or value where none may stand. -/
  | misplacedIndicator
  /-- A tab where spaces have to indent. -/
  | tabIndentation
  /-- A directive that is unknown, malformed or given twice. -/
  | badDirective
  /-- An anchor or alias without a proper name. -/
  | badAnchor
  /-- A malformed tag, or one with an undeclared handle. -/
  | badTag
  /-- A malformed header of a block scalar. -/
  | badBlockHeader
  /-- A quoted scalar that does not end, or with an unknown escape. -/
  | badQuoted
  /-- A colon inside a flow collection that a delimiter follows. -/
  | unexpectedColon
  /-- A token that does not belong where it stands. -/
  | unexpectedToken
  /-- An alias without its anchor. -/
  | unknownAlias
  /-- More than one document. -/
  | severalDocuments
  deriving DecidableEq

end FaultyServer.Yaml
