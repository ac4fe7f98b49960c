/-
# Faults in the text of a document

What can be wrong with the text before its values are looked at: the problem with its position, and
what was being read, with the position where that began.
-/
import BenchRoster.Yaml.Cursor

namespace BenchRoster.Yaml

/-- What is wrong with a text. -/
inductive Problem where
  | anchorCharacter
  | blockEntryNotAllowed
  | badCharacter
  | colonExpected
  | commentOrBreakExpected
  | controlCharacter
  | dashExpected
  | directiveName
  | directiveNameCharacter
  | documentMarkInQuotes
  | documentStartExpected
  | duplicateTagDirective
  | duplicateVersionDirective
  | endInQuotes
  | exclamationExpected
  | flowMappingEnd
  | flowSequenceEnd
  | greaterExpected
  | hexExpected
  | incompatibleVersion
  | invalidCodePoint
  | keyExpected
  | keyNotAllowed
  | longVersionNumber
  | nodeExpected
  | octetExpected
  | octetLead
  | octetTrail
  | tabInBlockScalar
  | tabInPlainScalar
  | tagUriExpected
  | undefinedHandle
  | unexpectedColon
  | unknownDirective
  | unknownEscape
  | valueNotAllowed
  | versionDigitOrDot
  | versionNumber
  | whitespaceExpected
  | whitespaceOrBreakExpected
  | zeroIndentation
deriving DecidableEq, Repr

def Problem.message : Problem → String
  | anchorCharacter => "did not find expected alphabetic or numeric character"
  | blockEntryNotAllowed => "block sequence entries are not allowed in this context"
  | badCharacter => "found character that cannot start any token"
  | colonExpected => "could not find expected ':'"
  | commentOrBreakExpected => "did not find expected comment or line break"
  | controlCharacter => "control characters are not allowed"
  | dashExpected => "did not find expected '-' indicator"
  | directiveName => "could not find expected directive name"
  | directiveNameCharacter => "found unexpected non-alphabetical character"
  | documentMarkInQuotes => "found unexpected document indicator"
  | documentStartExpected => "did not find expected <document start>"
  | duplicateTagDirective => "found duplicate %TAG directive"
  | duplicateVersionDirective => "found duplicate %YAML directive"
  | endInQuotes => "found unexpected end of stream"
  | exclamationExpected => "did not find expected '!'"
  | flowMappingEnd => "did not find expected ',' or '\x7d'"
  | flowSequenceEnd => "did not find expected ',' or ']'"
  | greaterExpected => "did not find the expected '>'"
  | hexExpected => "did not find expected hexadecimal number"
  | incompatibleVersion => "found incompatible YAML document"
  | invalidCodePoint => "found invalid Unicode character escape code"
  | keyExpected => "did not find expected key"
  | keyNotAllowed => "mapping keys are not allowed in this context"
  | longVersionNumber => "found extremely long version number"
  | nodeExpected => "did not find expected node content"
  | octetExpected => "did not find URI escaped octet"
  | octetLead => "found an incorrect leading UTF-8 octet"
  | octetTrail => "found an incorrect trailing UTF-8 octet"
  | tabInBlockScalar => "found a tab character where an indentation space is expected"
  | tabInPlainScalar => "found a tab character that violates indentation"
  | tagUriExpected => "did not find expected tag URI"
  | undefinedHandle => "found undefined tag handle"
  | unexpectedColon => "found unexpected ':'"
  | unknownDirective => "found unknown directive name"
  | unknownEscape => "found unknown escape character"
  | valueNotAllowed => "mapping values are not allowed in this context"
  | versionDigitOrDot => "did not find expected digit or '.' character"
  | versionNumber => "did not find expected version number"
  | whitespaceExpected => "did not find expected whitespace"
  | whitespaceOrBreakExpected => "did not find expected whitespace or line break"
  | zeroIndentation => "found an indentation indicator equal to 0"

/-- What was being read. -/
inductive Context where
  | reference
  | anchor
  | blockCollection
  | blockMapping
  | blockNode
  | blockScalar
  | directive
  | flowMapping
  | flowNode
  | flowSequence
  | nextToken
  | node
  | plainScalar
  | quotedScalar
  | quotedText
  | simpleKey
  | tag
  | tagDirective
  | tagDirectiveHandle
  | tagDirectiveMark
  | tagDirectiveUri
  | tagUri
  | versionDirective
deriving DecidableEq, Repr

def Context.message : Context → String
  | reference => "while scanning an alias"
  | anchor => "while scanning an anchor"
  | blockCollection => "while parsing a block collection"
  | blockMapping => "while parsing a block mapping"
  | blockNode => "while parsing a block node"
  | blockScalar => "while scanning a block scalar"
  | directive => "while scanning a directive"
  | flowMapping => "while parsing a flow mapping"
  | flowNode => "while parsing a flow node"
  | flowSequence => "while parsing a flow sequence"
  | nextToken => "while scanning for the next token"
  | node => "while parsing a node"
  | plainScalar => "while scanning a plain scalar"
  | quotedScalar => "while scanning a quoted scalar"
  | quotedText => "while parsing a quoted scalar"
  | simpleKey => "while scanning a simple key"
  | tag => "while scanning a tag"
  | tagDirective => "while scanning a %TAG directive"
  | tagDirectiveHandle => "while parsing a tag directive"
  | tagDirectiveMark => "while scanning a tag directive"
  | tagDirectiveUri => "while parsing a %TAG directive"
  | tagUri => "while parsing a tag"
  | versionDirective => "while scanning a %YAML directive"

/-- A fault in the text of a document. -/
structure Fault where
  problem : Problem
  mark : Mark
  context : Option (Context × Mark) := none
  /-- The number of bytes before a character that may not occur at all. -/
  offset : Nat := 0
deriving DecidableEq, Repr

namespace Fault

/-- Where the problem is: by line and column, or by bytes, or not at all at the origin. -/
def place (f : Fault) : String :=
  if f.mark.atOrigin then
    if f.offset = 0 then "" else s!" at position {f.offset}"
  else f.mark.suffix

/-- What was being read; its position is left out at the origin and where the problem is. -/
def background (f : Fault) : String :=
  match f.context with
  | none => ""
  | some (c, m) =>
    let same := m.line == f.mark.line && m.column == f.mark.column
    ", " ++ c.message ++ if same then "" else m.suffix

/-- The text shown for a fault. -/
def message (f : Fault) : String := f.problem.message ++ f.place ++ f.background

end Fault

/-- A fault while something is being read. -/
def fault {α : Type} (context : Context) (since : Mark) (problem : Problem) (mark : Mark) :
    Except Fault α :=
  .error { problem, mark, context := some (context, since) }

/-- A fault that needs no background. -/
def bareFault {α : Type} (problem : Problem) (mark : Mark) : Except Fault α :=
  .error { problem, mark }

end BenchRoster.Yaml
