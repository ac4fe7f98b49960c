/-
# Positions in a document

A cursor is what is still unread of a document together with the position reached.  A position
counts the bytes from the start and the characters of its line; a carriage return followed by a line
feed is one line break.
-/
import BenchRoster.Text.Utf8

namespace BenchRoster.Yaml

/-- A position: bytes before it, lines before it, and characters before it on its line. -/
structure Mark where
  index : Nat
  line : Nat
  column : Nat
deriving DecidableEq, Repr

namespace Mark

/-- The beginning of a document. -/
def start : Mark := ⟨0, 0, 0⟩

/-- The very first line and column, which messages leave out. -/
def atOrigin (m : Mark) : Bool := m.line == 0 && m.column == 0

/-- Lines and columns are shown from one. -/
def text (m : Mark) : String := s!"line {m.line + 1} column {m.column + 1}"

/-- A place is added to a message unless it is the origin. -/
def suffix (m : Mark) : String := if m.atOrigin then "" else s!" at {m.text}"

end Mark

/-- A space or a tab. -/
def isBlank (c : Char) : Bool := c == ' ' || c == '\t'

/-- The characters that break a line. -/
def isBreak (c : Char) : Bool :=
  c == '\r' || c == '\n' || c == '\u0085' || c == '\u2028' || c == '\u2029'

/-- The characters of anchors and tag handles. -/
def isWordChar (c : Char) : Bool := c.isAlphanum || c == '-' || c == '_'

/-- An unread rest with its position. -/
structure Cursor where
  rest : List Char
  mark : Mark
deriving Repr

namespace Cursor

def size (c : Cursor) : Nat := c.rest.length

/-- The character a number of places ahead. -/
def at? (c : Cursor) (k : Nat) : Option Char := c.rest[k]?

/-- The character a number of places ahead is the given one. -/
def sees (c : Cursor) (k : Nat) (ch : Char) : Bool := c.rest[k]? == some ch

/-- The character a number of places ahead satisfies a condition. -/
def has (c : Cursor) (k : Nat) (p : Char → Bool) : Bool := (c.rest[k]?).any p

/-- The document has ended a number of places ahead. -/
def ended (c : Cursor) (k : Nat) : Bool := (c.rest[k]?).isNone

/-- A line break or the end of the document. -/
def breakOrEnd (c : Cursor) (k : Nat) : Bool := (c.rest[k]?).all isBreak

/-- A blank, a line break or the end of the document. -/
def blankOrEnd (c : Cursor) (k : Nat) : Bool := (c.rest[k]?).all fun ch => isBlank ch || isBreak ch

/-- Takes one character of the line. -/
def skip (c : Cursor) : Cursor :=
  ⟨c.rest.tail,
    ⟨c.mark.index + (c.rest.head?.map Text.charWidth).getD 1, c.mark.line, c.mark.column + 1⟩⟩

/-- Takes a number of characters of the line. -/
def skipN : Nat → Cursor → Cursor
  | 0, c => c
  | n + 1, c => skipN n c.skip

/-- Takes a line break; answers what it stands for in a text. -/
def takeBreak (c : Cursor) : List Char × Cursor :=
  match c.rest with
  | '\r' :: '\n' :: r => (['\n'], ⟨r, ⟨c.mark.index + 2, c.mark.line + 1, 0⟩⟩)
  | ch :: r =>
    if isBreak ch then
      let kept := if ch = '\u2028' ∨ ch = '\u2029' then ch else '\n'
      ([kept], ⟨r, ⟨c.mark.index + Text.charWidth ch, c.mark.line + 1, 0⟩⟩)
    else ([], c)
  | [] => ([], c)

def skipBreak (c : Cursor) : Cursor := c.takeBreak.2

/-- Takes characters of the line while they satisfy a condition. -/
def takeWhile (p : Char → Bool) (c : Cursor) : List Char × Cursor :=
  let taken := c.rest.takeWhile p
  let bytes := taken.foldl (fun n ch => n + Text.charWidth ch) 0
  (taken, ⟨c.rest.dropWhile p,
    ⟨c.mark.index + bytes, c.mark.line, c.mark.column + taken.length⟩⟩)

def skipWhile (p : Char → Bool) (c : Cursor) : Cursor := (c.takeWhile p).2

/-- Takes blanks of the line. -/
def skipBlanks (c : Cursor) : Cursor := c.skipWhile isBlank

/-- Takes everything up to the line break. -/
def skipLineRest (c : Cursor) : Cursor := c.skipWhile fun ch => !isBreak ch

/-- Takes a comment, if one begins here. -/
def skipComment (c : Cursor) : Cursor := if c.sees 0 '#' then c.skipLineRest else c

/-- A line begins here with three equal marks, with nothing attached to them. -/
def seesTriple (c : Cursor) (ch : Char) : Bool :=
  c.mark.column == 0 && c.sees 0 ch && c.sees 1 ch && c.sees 2 ch && c.blankOrEnd 3

/-- A line begins here with the mark of a document's start or end. -/
def seesDocumentMark (c : Cursor) : Bool := c.seesTriple '-' || c.seesTriple '.'

end Cursor

/-- The cursor at the beginning of a document. -/
def Cursor.ofString (s : String) : Cursor := ⟨s.toList, .start⟩

end BenchRoster.Yaml
