/-
# Events

The structure of a document as a flat sequence: where collections begin and end, and the scalars and
aliases in between.  Values that are left out appear as empty scalars.
-/
import BenchRoster.Yaml.Token

namespace BenchRoster.Yaml

/-- What is attached to a value. -/
structure Properties where
  anchor : Option String
  tag : Option TagText
deriving DecidableEq, Repr

/-- A scalar of a document. -/
structure Scalar where
  text : String
  style : Style
  tag : Option TagText
deriving DecidableEq, Repr

inductive Event where
  | documentStart
  | documentEnd
  | reference (name : String)
  | scalar (anchor : Option String) (scalar : Scalar)
  | sequenceStart (p : Properties)
  | sequenceEnd
  | mappingStart (p : Properties)
  | mappingEnd
deriving DecidableEq, Repr

/-- An event with the position where it begins. -/
abbrev MarkedEvent := Event × Mark

end BenchRoster.Yaml
