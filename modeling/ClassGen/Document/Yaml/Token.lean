/-
# YAML tokens

The tokens that a YAML text is made of.  Where blocks start and end is told by indentation; the
tokens say it outright.
-/

namespace ClassGen.Document.Yaml

/-- How a scalar is written. -/
inductive ScalarStyle where
  | plain
  | singleQuoted
  | doubleQuoted
  | literal
  | folded
deriving DecidableEq, Repr

/-- A token of a YAML text. -/
inductive Token where
  | streamEnd
  /-- `%YAML`, with the version. -/
  | versionDirective (major minor : Nat)
  /-- `%TAG`, with the handle and what it stands for. -/
  | tagDirective (handle expansion : List Char)
  | documentStart
  | documentEnd
  | blockSequenceStart
  | blockMappingStart
  | blockEnd
  | flowSequenceStart
  | flowSequenceEnd
  | flowMappingStart
  | flowMappingEnd
  | blockEntry
  | flowEntry
  | key
  | value
  | reference (name : List Char)
  | anchor (name : List Char)
  | tag (handle suffix : List Char)
  | scalar (style : ScalarStyle) (text : List Char)
deriving DecidableEq, Repr

end ClassGen.Document.Yaml
