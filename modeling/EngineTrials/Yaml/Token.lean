/-!
# Tokens of a YAML text

The marks, names and scalars a YAML text consists of. The beginning and end of block collections
have no marks of their own and are tokens nevertheless.
-/
namespace EngineTrials.Yaml

/-- The ways to write a scalar. -/
inductive Style
  | plain
  | singleQuoted
  | doubleQuoted
  | literal
  | folded
deriving DecidableEq, Inhabited

/-- The bytes of a tag; escapes in it need not form characters. -/
abbrev TagText := List UInt8

inductive Token
  | version (major minor : Nat)
  | tagHandle (handle replacement : TagText)
  | documentStart
  | documentEnd
  | streamEnd
  | blockSequenceStart
  | blockMappingStart
  | blockEnd
  | flowSequenceStart
  | flowSequenceEnd
  | flowMappingStart
  | flowMappingEnd
  | blockEntry
  | flowEntry
  | key
  | value
  | reference (name : List Char)
  | anchor (name : List Char)
  /-- A tag with an empty handle is its suffix. -/
  | tag (handle suffix : TagText)
  | scalar (text : List Char) (style : Style)
deriving DecidableEq, Inhabited

end EngineTrials.Yaml
