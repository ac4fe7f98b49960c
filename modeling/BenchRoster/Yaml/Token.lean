/-
# Tokens

The pieces into which a document is cut: marks of structure, scalars, and the names and tags that
are attached to values.
-/
import BenchRoster.Yaml.Cursor

namespace BenchRoster.Yaml

/-- How a scalar is written. -/
inductive Style where
  | plain
  | single
  | double
  | literal
  | folded
deriving DecidableEq, Repr

/-- The text of a tag, or the part of it after a shorthand.  It is written with escaped bytes, which
need not make up characters. -/
abbrev TagText := List UInt8

/-- What a token stands for. -/
inductive Lexeme where
  | streamStart
  | streamEnd
  | version (major minor : Nat)
  | tagShorthand (handle : String) (uri : TagText)
  | documentStart
  | documentEnd
  | blockSequenceStart
  | blockMappingStart
  | blockEnd
  | flowSequenceStart
  | flowSequenceEnd
  | flowMappingStart
  | flowMappingEnd
  | blockEntry
  | flowEntry
  | key
  | value
  | reference (name : String)
  | anchor (name : String)
  | tag (handle : String) (uri : TagText)
  | scalar (text : String) (style : Style)
deriving DecidableEq, Repr

/-- A lexeme with the positions of its ends. -/
structure Token where
  lexeme : Lexeme
  start : Mark
  stop : Mark
deriving DecidableEq, Repr

end BenchRoster.Yaml
