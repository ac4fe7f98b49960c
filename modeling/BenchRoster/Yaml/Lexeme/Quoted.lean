/-
# Quoted scalars

Between single quotes only a doubled quote is special.  Between double quotes a backslash introduces
an escape, and one at the end of a line joins the lines.
-/
import BenchRoster.Iterate
import BenchRoster.Text.Digits
import BenchRoster.Yaml.Fault
import BenchRoster.Yaml.Lexeme.Folding
import BenchRoster.Yaml.Token

namespace BenchRoster.Yaml.Quoted

/-- Escapes of one character. -/
def shortEscape? (ch : Char) : Option Char :=
  if ch = '0' then some '\x00'
  else if ch = 'a' then some '\x07'
  else if ch = 'b' then some '\x08'
  else if ch = 't' ∨ ch = '\t' then some '\t'
  else if ch = 'n' then some '\n'
  else if ch = 'v' then some '\x0b'
  else if ch = 'f' then some '\x0c'
  else if ch = 'r' then some '\r'
  else if ch = 'e' then some '\x1b'
  else if ch = ' ' ∨ ch = '"' ∨ ch = '/' ∨ ch = '\\' then some ch
  else if ch = 'N' then some '\u0085'
  else if ch = '_' then some '\u00a0'
  else if ch = 'L' then some '\u2028'
  else if ch = 'P' then some '\u2029'
  else none

/-- The number of digits of an escape by code point. -/
def codeLength? (ch : Char) : Option Nat :=
  if ch = 'x' then some 2
  else if ch = 'u' then some 4
  else if ch = 'U' then some 8
  else none

/-- Reads the escape whose backslash is the next character. -/
def escape (since : Mark) (c : Cursor) : Except Fault (Char × Cursor) :=
  match c.at? 1 with
  | none => fault .quotedText since .unknownEscape c.mark
  | some ch =>
    match shortEscape? ch, codeLength? ch with
    | some d, _ => .ok (d, c.skipN 2)
    | none, none => fault .quotedText since .unknownEscape c.mark
    | none, some n =>
      let c := c.skipN 2
      let code := c.rest.take n
      match (if code.length = n then Text.number? 16 code else none) with
      | none => fault .quotedText since .hexExpected c.mark
      | some v =>
        if (0xD800 ≤ v ∧ v ≤ 0xDFFF) ∨ 0x10FFFF < v then
          fault .quotedText since .invalidCodePoint c.mark
        else .ok (Char.ofNat v, c.skipN n)

/-- The text read so far, in reverse. -/
structure Progress where
  text : List Char
  /-- White space that has not been added yet; none while inside a word. -/
  gap : Option Gap
deriving Repr

/-- Adds the white space before a word. -/
def Progress.settled (p : Progress) : List Char :=
  match p.gap with
  | none => p.text
  | some g => g.fold.reverse ++ p.text

def Progress.push (p : Progress) (ch : Char) : Progress := ⟨ch :: p.settled, none⟩

/-- A quoted scalar may not hold the mark of a document's start or end, nor the end of the text.
This is looked at before every word. -/
def guardWord (since : Mark) (c : Cursor) : Except Fault Unit :=
  if c.seesDocumentMark then fault .quotedScalar since .documentMarkInQuotes c.mark
  else if c.ended 0 then fault .quotedScalar since .endInQuotes c.mark
  else .ok ()

/-- Takes the next character, escape or piece of white space. -/
def step (single : Bool) (since : Mark) (p : Progress) (c : Cursor) :
    Except Fault (Option Progress × Cursor) := do
  let quote := if single then '\'' else '"'
  if c.has 0 isBlank then
    let g := p.gap.getD (.blanks [])
    .ok (some { p with gap := some (g.addBlank (c.rest.headD ' ')) }, c.skip)
  else if c.has 0 isBreak then
    let (b, c) := c.takeBreak
    .ok (some { p with gap := some ((p.gap.getD (.blanks [])).addBreak b) }, c)
  else
    -- a word begins here, or the text ends
    if p.gap.isSome ∨ c.ended 0 then guardWord since c
    match c.rest with
    | [] => .ok (none, c)
    | ch :: _ =>
      if single ∧ ch = '\'' ∧ c.sees 1 '\'' then .ok (some (p.push '\''), c.skipN 2)
      else if ch = quote then .ok (none, c)
      else if ¬ single ∧ ch = '\\' ∧ c.has 1 isBreak then
        -- the escaped break counts as no break, but the blanks after it are dropped
        .ok (some ⟨p.settled, some (.breaks [] [])⟩, c.skip.skipBreak)
      else if ¬ single ∧ ch = '\\' then do
        let (d, c) ← escape since c
        .ok (some (p.push d), c)
      else .ok (some (p.push ch), c.skip)

end Quoted

/-- Reads a quoted scalar; the cursor stands at its opening quote. -/
def scanQuoted (single : Bool) (c : Cursor) : Except Fault (Token × Cursor) := do
  let since := c.mark
  Quoted.guardWord since c.skip
  let (p, c) ← stepAll since c.skip
  let style : Style := if single then .single else .double
  .ok (⟨.scalar (String.ofList p.reverse) style, since, c.skip.mark⟩,
    c.skip)
where
  stepAll (since : Mark) (c : Cursor) : Except Fault (List Char × Cursor) := do
    let (p, c) ← iterate Cursor.size (Quoted.step single since) ⟨[], none⟩ c
    let text := match p.gap with
      | none => p.text
      | some g => g.fold.reverse ++ p.text
    .ok (text, c)

end BenchRoster.Yaml
