/-
# Block scalars

A literal scalar keeps its line breaks and a folded one joins lines that are not indented further.
The header may fix the indentation and say what becomes of the line breaks at the end.
-/
import BenchRoster.Iterate
import BenchRoster.Yaml.Fault
import BenchRoster.Yaml.Token

namespace BenchRoster.Yaml.Block

/-- What becomes of the line breaks at the end. -/
inductive Chomp where
  | strip
  | clip
  | keep
deriving DecidableEq, Repr

structure Header where
  chomp : Chomp
  /-- The indentation relative to the surroundings, if it is given. -/
  increment : Option Nat
deriving Repr

/-- The mark for what becomes of the line breaks at the end. -/
def chompMark? (c : Cursor) : Option Chomp :=
  if c.sees 0 '+' then some .keep else if c.sees 0 '-' then some .strip else none

/-- The digit of the indentation, which is not zero. -/
def incrementDigit (since : Mark) (c : Cursor) : Except Fault (Option Nat × Cursor) :=
  match c.rest with
  | ch :: _ =>
    if ch = '0' then fault .blockScalar since .zeroIndentation c.mark
    else if ch.isDigit then .ok (some (ch.toNat - 48), c.skip)
    else .ok (none, c)
  | [] => .ok (none, c)

/-- Reads the header: the two marks in either order. -/
def header (since : Mark) (c : Cursor) : Except Fault (Header × Cursor) := do
  match chompMark? c with
  | some chomp =>
    let (increment, c) ← incrementDigit since c.skip
    .ok (⟨chomp, increment⟩, c)
  | none =>
    let (increment, c) ← incrementDigit since c
    match increment, chompMark? c with
    | some _, some chomp => .ok (⟨chomp, increment⟩, c.skip)
    | _, _ => .ok (⟨.clip, increment⟩, c)

/-- Takes the rest of the header's line. -/
def headerEnd (since : Mark) (c : Cursor) : Except Fault Cursor :=
  let c := c.skipBlanks.skipComment
  if c.breakOrEnd 0 then .ok c.skipBreak
  else fault .blockScalar since .commentOrBreakExpected c.mark

/-- The empty lines before a line of the scalar. -/
structure Breaks where
  /-- The line breaks, in order. -/
  text : List Char
  /-- The largest column reached by leading spaces. -/
  widest : Nat
  stop : Mark
deriving Repr

/-- Takes spaces up to the indentation, or all of them while it is not known. -/
def takeIndent (indent : Option Nat) (c : Cursor) : Cursor :=
  match indent with
  | none => c.skipWhile (· == ' ')
  | some n =>
    let spaces := (c.rest.takeWhile (· == ' ')).length
    c.skipN (min spaces (n - c.mark.column))

/-- Takes the leading spaces of a line, and its break if it is empty. -/
def breakStep (since : Mark) (indent : Option Nat) (b : Breaks) (c : Cursor) :
    Except Fault (Option Breaks × Cursor) :=
  let c := takeIndent indent c
  let widest := max b.widest c.mark.column
  if (indent.all fun n => c.mark.column < n) ∧ c.sees 0 '\t' then
    fault .blockScalar since .tabInBlockScalar c.mark
  else if c.has 0 isBreak then
    let (br, c) := c.takeBreak
    .ok (some ⟨b.text ++ br, widest, c.mark⟩, c)
  else .ok (none, c)

/-- Takes empty lines; an indentation that is not known is found from them and the line after. -/
def breaks (since : Mark) (outer : Int) (indent : Option Nat) (c : Cursor) :
    Except Fault (List Char × Nat × Mark × Cursor) := do
  let (b, c) ← iterate Cursor.size (breakStep since indent) ⟨[], 0, c.mark⟩ c
  -- the indentation is that of the widest line so far, and further in than the surroundings
  let found := max (max b.widest c.mark.column) (max (outer + 1).toNat 1)
  .ok (b.text, indent.getD found, b.stop, c)

/-- The lines read so far. -/
structure Progress where
  /-- The text in reverse. -/
  text : List Char
  /-- The break at the end of the last line, and the empty lines after it. -/
  lineBreak : List Char
  emptyLines : List Char
  /-- The last line began with a blank. -/
  leadingBlank : Bool
  indent : Nat
  stop : Mark
deriving Repr

/-- What stands between two lines. -/
def Progress.joint (p : Progress) (folded nextBlank : Bool) : List Char :=
  if folded ∧ p.lineBreak = ['\n'] ∧ ¬ p.leadingBlank ∧ ¬ nextBlank then
    if p.emptyLines = [] then [' '] else p.emptyLines
  else p.lineBreak ++ p.emptyLines

/-- Takes one line and the empty lines after it. -/
def lineStep (folded : Bool) (since : Mark) (outer : Int) (p : Progress) (c : Cursor) :
    Except Fault (Option Progress × Cursor) := do
  if c.mark.column = p.indent ∧ ¬ c.ended 0 then
    let startsBlank := c.has 0 isBlank
    let (line, c) := c.takeWhile fun ch => !isBreak ch
    let text := line.reverse ++ (p.joint folded startsBlank).reverse ++ p.text
    -- what follows the line stays apart until the next line shows how they are joined
    let (lineBreak, c) := c.takeBreak
    let (emptyLines, indent, stop, c) ← breaks since outer (some p.indent) c
    .ok (some ⟨text, lineBreak, emptyLines, startsBlank, indent, stop⟩, c)
  else .ok (none, c)

/-- The text with what is kept of the line breaks at its end. -/
def Progress.finish (p : Progress) (chomp : Chomp) : List Char :=
  p.text.reverse ++
    match chomp with
    | .strip => []
    | .clip => p.lineBreak
    | .keep => p.lineBreak ++ p.emptyLines

end Block

/-- Reads a block scalar; the cursor stands at its indicator, `outer` is the indentation around. -/
def scanBlock (folded : Bool) (outer : Int) (c : Cursor) : Except Fault (Token × Cursor) := do
  let since := c.mark
  let (h, c) ← Block.header since c.skip
  let c ← Block.headerEnd since c
  let known := h.increment.map fun n => if 0 ≤ outer then outer.toNat + n else n
  let (emptyLines, indent, stop, c) ← Block.breaks since outer known c
  let (p, c) ← iterate Cursor.size (Block.lineStep folded since outer)
    ⟨[], [], emptyLines, false, indent, stop⟩ c
  .ok (⟨.scalar (String.ofList (p.finish h.chomp)) (if folded then .folded else .literal),
    since, p.stop⟩, c)

end BenchRoster.Yaml
