/-
# Faults of written patterns

What can be wrong with the written form of a pattern, where, and how it is told: the text is shown
with the parts at fault marked under its lines.
-/
import BenchRoster.Text.Lines

namespace BenchRoster.Pattern

/-- A place in a written pattern: how many characters come before it, and its line and column, both
counted from one. -/
structure Place where
  index : Nat := 0
  line : Nat := 1
  column : Nat := 1
deriving DecidableEq, Repr

/-- The place after a character. -/
def Place.after (p : Place) (c : Char) : Place :=
  if c = '\n' then ⟨p.index + 1, p.line + 1, 1⟩ else ⟨p.index + 1, p.line, p.column + 1⟩

/-- A part of a written pattern, from one place up to another. -/
structure Span where
  start : Place := {}
  stop : Place := {}
deriving DecidableEq, Repr

def Span.isOneLine (s : Span) : Bool := s.start.line == s.stop.line

/-- The part from the start of one up to the end of another. -/
def Span.through (a b : Span) : Span := ⟨a.start, b.stop⟩

/-- What can be wrong with a written pattern. -/
inductive Flaw where
  | classEscapeInvalid
  | classRangeInvalid
  | classRangeLiteral
  | classUnclosed
  | decimalInvalid
  | escapeHexEmpty
  | escapeHexInvalid
  | escapeHexInvalidDigit
  | escapeUnexpectedEnd
  | escapeUnrecognized
  | flagDanglingNegation
  | flagDuplicate
  | flagRepeatedNegation
  | flagUnexpectedEnd
  | flagUnrecognized
  | groupNameDuplicate
  | groupNameEmpty
  | groupNameInvalid
  | groupNameUnexpectedEnd
  | groupUnclosed
  | groupUnopened
  | nestedTooDeep
  | repetitionCountEmpty
  | repetitionCountInvalid
  | repetitionCountUnclosed
  | repetitionMissing
  | specialBoundaryUnclosed
  | specialBoundaryUnrecognized
  | specialBoundaryUnexpectedEnd
  | propertyNameInvalid
  | unsupportedBackreference
  | unsupportedLookAround
  | unicodeNotAllowed
  | invalidUtf8
  | propertyNotFound
  | propertyValueNotFound
deriving DecidableEq, Repr

/-- How many parts of a pattern may stand inside each other. -/
def deepest : Nat := 250

def Flaw.reason : Flaw → String
  | classEscapeInvalid => "invalid escape sequence found in character class"
  | classRangeInvalid => "invalid character class range, the start must be <= the end"
  | classRangeLiteral => "invalid range boundary, must be a literal"
  | classUnclosed => "unclosed character class"
  | decimalInvalid => "decimal literal invalid"
  | escapeHexEmpty => "hexadecimal literal empty"
  | escapeHexInvalid => "hexadecimal literal is not a Unicode scalar value"
  | escapeHexInvalidDigit => "invalid hexadecimal digit"
  | escapeUnexpectedEnd => "incomplete escape sequence, reached end of pattern prematurely"
  | escapeUnrecognized => "unrecognized escape sequence"
  | flagDanglingNegation => "dangling flag negation operator"
  | flagDuplicate => "duplicate flag"
  | flagRepeatedNegation => "flag negation operator repeated"
  | flagUnexpectedEnd => "expected flag but got end of regex"
  | flagUnrecognized => "unrecognized flag"
  | groupNameDuplicate => "duplicate capture group name"
  | groupNameEmpty => "empty capture group name"
  | groupNameInvalid => "invalid capture group character"
  | groupNameUnexpectedEnd => "unclosed capture group name"
  | groupUnclosed => "unclosed group"
  | groupUnopened => "unopened group"
  | nestedTooDeep => s!"exceed the maximum number of nested parentheses/brackets ({deepest})"
  | repetitionCountEmpty => "repetition quantifier expects a valid decimal"
  | repetitionCountInvalid => "invalid repetition count range, the start must be <= the end"
  | repetitionCountUnclosed => "unclosed counted repetition"
  | repetitionMissing => "repetition operator missing expression"
  | specialBoundaryUnclosed =>
    "special word boundary assertion is either unclosed or contains an invalid character"
  | specialBoundaryUnrecognized =>
    "unrecognized special word boundary assertion, valid choices are: start, end, " ++
      "start-half or end-half"
  | specialBoundaryUnexpectedEnd =>
    "found either the beginning of a special word boundary or a bounded repetition on a " ++
      "\\b with an opening brace, but no closing brace"
  | propertyNameInvalid => "invalid Unicode character class"
  | unsupportedBackreference => "backreferences are not supported"
  | unsupportedLookAround =>
    "look-around, including look-ahead and look-behind, is not supported"
  | unicodeNotAllowed => "Unicode not allowed here"
  | invalidUtf8 => "pattern can match invalid UTF-8"
  | propertyNotFound => "Unicode property not found"
  | propertyValueNotFound => "Unicode property value not found"

/-- A flaw with the part that has it, and the earlier part that it collides with, if any. -/
structure Fault where
  flaw : Flaw
  span : Span
  earlier : Option Span := none
deriving DecidableEq, Repr

namespace Fault

def spans (f : Fault) : List Span := f.earlier.toList ++ [f.span]

/-- Marks under a line, from a column on: each part gets at least one. -/
def marks : Nat → List Span → List Char
  | _, [] => []
  | column, s :: ss =>
    let width := max 1 (s.stop.column - s.start.column)
    List.replicate (s.start.column - column) ' ' ++ List.replicate width '^' ++
      marks (max column s.start.column + width) ss

/-- A line with the marks under it, if there are any; `label` stands before the line. -/
def markedLine (spans : List Span) (number : Nat) (label line : String) : List String :=
  let here := spans.filter fun s => s.isOneLine && s.start.line == number
  let under := String.ofList (List.replicate label.length ' ' ++ marks 1 here)
  if here.isEmpty then [label ++ line] else [label ++ line, under]

/-- A part over several lines. -/
def acrossLines (s : Span) : String :=
  s!"on line {s.start.line} (column {s.start.column}) through " ++
    s!"line {s.stop.line} (column {s.stop.column - 1})"

/-- A number with blanks before it up to a width. -/
def aligned (width n : Nat) : String :=
  let digits := toString n
  String.ofList (List.replicate (width - digits.length) ' ') ++ digits

/-- The text with the parts at fault marked, and the reason.  A text of several lines is shown
between rules, with the numbers of its lines; a line feed at its end opens one more line, which is
counted and not shown. -/
def message (f : Fault) (text : String) : String :=
  let lines := Text.lines text
  let reason := s!"error: {f.flaw.reason}"
  let shown :=
    if text.contains '\n' then
      let rule := String.ofList (List.replicate 79 '~')
      let count := lines.length + if text.endsWith "\n" then 1 else 0
      let width := (toString count).length
      let body := (lines.zipIdx 1).flatMap fun (line, number) =>
        markedLine f.spans number (aligned width number ++ ": ") line
      let far := f.spans.filter (!·.isOneLine)
      [rule] ++ body ++ [rule] ++ far.map acrossLines
    else lines.flatMap (markedLine f.spans 1 "    ")
  "\n".intercalate (["regex parse error:"] ++ shown ++ [reason])

end Fault

end BenchRoster.Pattern
