/-
# Plain scalars

A plain scalar ends at a comment, at a colon that is followed by white space, at the punctuation of
flow collections when it stands inside one, at a line that is not indented enough, and at the mark
of a document's start or end.
-/
import BenchRoster.Iterate
import BenchRoster.Yaml.Fault
import BenchRoster.Yaml.Lexeme.Folding
import BenchRoster.Yaml.Token

namespace BenchRoster.Yaml.Plain

/-- Where a plain scalar stands. -/
structure Surroundings where
  /-- Inside a flow collection. -/
  flow : Bool
  /-- The least column of a further line. -/
  indent : Int
  since : Mark

/-- The brackets of flow collections and the comma. -/
def isFlowMark (ch : Char) : Bool :=
  ch == ',' || ch == '[' || ch == ']' || ch == '\x7b' || ch == '\x7d'

/-- A colon inside a flow collection may not be followed directly by these. -/
def clashesWithColon (ch : Char) : Bool := isFlowMark ch || ch == '?'

/-- The text read so far, in reverse, white space not added yet, and where the last word ended. -/
structure Progress where
  text : List Char
  gap : Gap
  stop : Mark
deriving Repr

/-- The scalar ends before the next character of a word. -/
def endsWord (s : Surroundings) (c : Cursor) : Bool :=
  (c.sees 0 ':' && c.blankOrEnd 1) || (s.flow && c.has 0 isFlowMark)

/-- Takes the next character or piece of white space. -/
def step (s : Surroundings) (p : Progress) (c : Cursor) :
    Except Fault (Option Progress × Cursor) :=
  match c.rest with
  | [] => .ok (none, c)
  | ch :: _ =>
    if isBlank ch then
      -- after a line break, a tab cannot take the place of the indentation
      if p.gap.broken ∧ (c.mark.column : Int) < s.indent ∧ ch = '\t' then
        fault .plainScalar s.since .tabInPlainScalar c.mark
      else .ok (some { p with gap := p.gap.addBlank ch }, c.skip)
    else if isBreak ch then
      let (b, c) := c.takeBreak
      .ok (some { p with gap := p.gap.addBreak b }, c)
    else
      -- the checks that come before a new word
      let fresh := ! p.gap.isEmpty
      if fresh ∧ ¬ s.flow ∧ (c.mark.column : Int) < s.indent then .ok (none, c)
      else if fresh ∧ (c.seesDocumentMark ∨ ch = '#') then .ok (none, c)
      else if s.flow ∧ ch = ':' ∧ c.has 1 clashesWithColon then
        fault .plainScalar s.since .unexpectedColon c.mark
      else if endsWord s c then .ok (none, c)
      else
        -- the white space before the character has turned out to lie inside the scalar
        let c := c.skip
        .ok (some ⟨ch :: (p.gap.fold.reverse ++ p.text), .blanks [], c.mark⟩, c)

end Plain

/-- Reads a plain scalar; answers too whether a line break follows it. -/
def scanPlain (flow : Bool) (indent : Int) (c : Cursor) : Except Fault (Token × Bool × Cursor) := do
  let s : Plain.Surroundings := ⟨flow, indent + 1, c.mark⟩
  let (p, rest) ← iterate Cursor.size (Plain.step s) ⟨[], .blanks [], c.mark⟩ c
  .ok (⟨.scalar (String.ofList p.text.reverse) .plain, c.mark, p.stop⟩, p.gap.broken, rest)

end BenchRoster.Yaml
