/-
# Anchors, aliases, tags and directives

Names that are attached to values, and the lines that declare the version and shorthands for tags.
-/
import BenchRoster.Iterate
import BenchRoster.Text.Digits
import BenchRoster.Text.Utf8
import BenchRoster.Yaml.Fault
import BenchRoster.Yaml.Token

namespace BenchRoster.Yaml

/-- What may follow the name of an anchor or alias besides white space. -/
def endsName (ch : Char) : Bool :=
  ch == '?' || ch == ':' || ch == ',' || ch == ']' || ch == '\x7d' || ch == '%' || ch == '@' ||
    ch == '\x60'

/-- Reads the name of an anchor or alias after its indicator. -/
def scanName (isAlias : Bool) (c : Cursor) : Except Fault (Token × Cursor) :=
  let since := c.mark
  let (name, c) := c.skip.takeWhile isWordChar
  if name = [] ∨ ¬ (c.blankOrEnd 0 ∨ c.has 0 endsName) then
    fault (if isAlias then .reference else .anchor) since .anchorCharacter c.mark
  else
    let name := String.ofList name
    .ok (⟨if isAlias then .reference name else .anchor name, since, c.mark⟩, c)

namespace Tag

/-- What a tag is read for. -/
inductive Purpose where
  /-- A tag that is attached to a value. -/
  | value
  /-- The declaration of a shorthand. -/
  | declaration
deriving DecidableEq, Repr

def Purpose.uriContext : Purpose → Context
  | .value => .tagUri
  | .declaration => .tagDirectiveUri

/-- The characters of a tag besides escapes. -/
def isUriChar (ch : Char) : Bool :=
  isWordChar ch || [';', '/', '?', ':', '@', '&', '=', '+', '$', '.', '!', '~', '*', '\'', '(',
    ')'].contains ch

/-- Further characters of a tag between angle brackets. -/
def isFlowUriChar (ch : Char) : Bool := ch == ',' || ch == '[' || ch == ']'

/-- The byte written as a percent sign and two digits. -/
def escapedByte? (c : Cursor) : Option Nat :=
  match c.rest with
  | '%' :: a :: b :: _ => Text.number? 16 [a, b]
  | _ => none

/-- The number of bytes of a character that begins with the given byte. -/
def leadWidth (n : Nat) : Nat :=
  if n < 0x80 then 1
  else if 0xC0 ≤ n ∧ n < 0xE0 then 2
  else if 0xE0 ≤ n ∧ n < 0xF0 then 3
  else if 0xF0 ≤ n ∧ n < 0xF8 then 4
  else 0

/-- Reads the further bytes of an escaped character. -/
def escapedTail (p : Purpose) (since : Mark) : Nat → List UInt8 → Cursor →
    Except Fault (List UInt8 × Cursor)
  | 0, bytes, c => .ok (bytes, c)
  | n + 1, bytes, c =>
    match escapedByte? c with
    | none => fault p.uriContext since .octetExpected c.mark
    | some b =>
      if 0x80 ≤ b ∧ b < 0xC0 then escapedTail p since n (bytes ++ [b.toUInt8]) (c.skipN 3)
      else fault p.uriContext since .octetTrail c.mark

/-- Reads an escaped character, whose further bytes are only known to be such. -/
def escaped (p : Purpose) (since : Mark) (c : Cursor) : Except Fault (TagText × Cursor) :=
  match escapedByte? c with
  | none => fault p.uriContext since .octetExpected c.mark
  | some b =>
    match leadWidth b with
    | 0 => fault p.uriContext since .octetLead c.mark
    | n + 1 => escapedTail p since n [b.toUInt8] (c.skipN 3)

/-- Takes the next character or escape of a tag. -/
def uriStep (p : Purpose) (verbatim : Bool) (since : Mark) (acc : TagText) (c : Cursor) :
    Except Fault (Option TagText × Cursor) :=
  match c.rest with
  | [] => .ok (none, c)
  | ch :: _ =>
    if ch = '%' then do
      let (bytes, c) ← escaped p since c
      .ok (some (acc ++ bytes), c)
    else if isUriChar ch ∨ (verbatim ∧ isFlowUriChar ch) then
      .ok (some (acc ++ Text.encodeChar ch), c.skip)
    else .ok (none, c)

/-- Reads the part of a tag after its handle; the head is what has been read of it before. -/
def uri (p : Purpose) (verbatim : Bool) (head : List Char) (since : Mark) (c : Cursor) :
    Except Fault (TagText × Cursor) := do
  let (text, c') ← iterate Cursor.size (uriStep p verbatim since) (Text.encode head.tail) c
  if head = [] ∧ c'.mark.index = c.mark.index then
    fault p.uriContext since .tagUriExpected c'.mark
  else .ok (text, c')

/-- Reads a handle: an exclamation mark, or a word between two of them. -/
def handle (p : Purpose) (since : Mark) (c : Cursor) : Except Fault (List Char × Cursor) :=
  if c.sees 0 '!' then
    let (word, c) := c.skip.takeWhile isWordChar
    if c.sees 0 '!' then .ok ('!' :: word ++ ['!'], c.skip)
    else if p = .declaration ∧ word ≠ [] then
      fault .tagDirectiveHandle since .exclamationExpected c.mark
    else .ok ('!' :: word, c)
  else
    fault (if p = .declaration then .tagDirectiveMark else .tag) since .exclamationExpected c.mark

/-- The handle is a whole one: an exclamation mark on both sides. -/
def isWhole (h : List Char) : Bool := 2 ≤ h.length && h.getLast? == some '!'

/-- A tag ends before its first NUL. -/
def upToNul (t : TagText) : TagText := t.takeWhile (· != 0)

/-- Reads the handle and the rest of a tag.  An exclamation mark that nothing follows is the whole
of a tag. -/
def parts (since : Mark) (c : Cursor) : Except Fault (List Char × TagText × Cursor) := do
  if c.sees 1 '<' then
    let (u, c) ← uri .value true [] since (c.skipN 2)
    if c.sees 0 '>' then .ok ([], u, c.skip)
    else fault .tag since .greaterExpected c.mark
  else
    let (h, c) ← handle .value since c
    if isWhole h then
      let (u, c) ← uri .value false [] since c
      .ok (h, u, c)
    else
      let (u, c) ← uri .value false h since c
      if upToNul u = [] then .ok ([], Text.encode ['!'], c) else .ok (['!'], u, c)

end Tag

/-- Reads a tag that is attached to a value. -/
def scanTag (flow : Bool) (c : Cursor) : Except Fault (Token × Cursor) := do
  let since := c.mark
  let (h, u, c) ← Tag.parts since c
  if c.blankOrEnd 0 ∨ (flow ∧ c.sees 0 ',') then
    .ok (⟨.tag (String.ofList h) u, since, c.mark⟩, c)
  else fault .tag since .whitespaceOrBreakExpected c.mark

namespace Directive

/-- The number of digits of a version number is limited. -/
def maxVersionDigits : Nat := 9

/-- Reads a part of a version number. -/
def number (since : Mark) (c : Cursor) : Except Fault (Nat × Cursor) :=
  let (ds, c') := c.takeWhile Char.isDigit
  if maxVersionDigits < ds.length then
    fault .versionDirective since .longVersionNumber (c.skipN maxVersionDigits).mark
  else if ds = [] then fault .versionDirective since .versionNumber c.mark
  else .ok (ds.foldl (fun n d => n * 10 + (d.toNat - 48)) 0, c')

/-- Reads a version number. -/
def version (since : Mark) (c : Cursor) : Except Fault (Lexeme × Cursor) := do
  let (major, c) ← number since c.skipBlanks
  if c.sees 0 '.' then
    let (minor, c) ← number since c.skip
    .ok (.version major minor, c)
  else fault .versionDirective since .versionDigitOrDot c.mark

/-- Reads a shorthand and what it stands for. -/
def shorthand (since : Mark) (c : Cursor) : Except Fault (Lexeme × Cursor) := do
  let (h, c) ← Tag.handle .declaration since c.skipBlanks
  if ¬ c.has 0 isBlank then fault .tagDirective since .whitespaceExpected c.mark
  else
    let (u, c) ← Tag.uri .declaration true [] since c.skipBlanks
    if c.blankOrEnd 0 then .ok (.tagShorthand (String.ofList h) u, c)
    else fault .tagDirective since .whitespaceOrBreakExpected c.mark

/-- Reads the name of a directive. -/
def name (since : Mark) (c : Cursor) : Except Fault (List Char × Cursor) :=
  let (word, c) := c.takeWhile isWordChar
  if word = [] then fault .directive since .directiveName c.mark
  else if c.blankOrEnd 0 then .ok (word, c)
  else fault .directive since .directiveNameCharacter c.mark

end Directive

/-- Reads a directive; the cursor stands at its percent sign. -/
def scanDirective (c : Cursor) : Except Fault (Token × Cursor) := do
  let since := c.mark
  let (word, c) ← Directive.name since c.skip
  let (lexeme, c) ←
    if word = ['Y', 'A', 'M', 'L'] then Directive.version since c
    else if word = ['T', 'A', 'G'] then Directive.shorthand since c
    else fault .directive since .unknownDirective c.mark
  let stop := c.mark
  let c := c.skipBlanks.skipComment
  if c.breakOrEnd 0 then .ok (⟨lexeme, since, stop⟩, c.skipBreak)
  else fault .directive since .commentOrBreakExpected c.mark

end BenchRoster.Yaml
