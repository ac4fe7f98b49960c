/-
# Escapes

What a backslash introduces: characters by their code, sets, properties, anchors, and characters
that would otherwise have a meaning of their own.
-/
import BenchRoster.Pattern.Cursor
import BenchRoster.Pattern.Form
import BenchRoster.Text.Digits

namespace BenchRoster.Pattern

/-- The characters that have a meaning of their own. -/
def metaCharacters : List Char :=
  ['\\', '.', '+', '*', '?', '(', ')', '|', '[', ']', '\x7b', '\x7d', '^', '$', '#', '&', '-', '~']

/-- The characters that stand for themselves after a backslash: those with a meaning of their own,
and the other ASCII characters that are neither letters nor digits nor angle brackets. -/
def escapesToItself (c : Char) : Bool :=
  metaCharacters.contains c || (c.toNat < 128 && !c.isAlphanum && c != '<' && c != '>')

/-- The characters with an escape of one letter. -/
def namedCharacter? (c : Char) : Option Char :=
  match c with
  | 'a' => some '\x07'
  | 'f' => some '\x0c'
  | 't' => some '\t'
  | 'n' => some '\n'
  | 'r' => some '\r'
  | 'v' => some '\x0b'
  | _ => none

def namedAnchor? (c : Char) : Option Anchor :=
  match c with
  | 'A' => some .textStart
  | 'z' => some .textEnd
  | 'b' => some .boundary
  | 'B' => some .noBoundary
  | '<' => some .wordStart
  | '>' => some .wordEnd
  | _ => none

/-- The sets with a letter of their own; a capital letter stands for the complement. -/
def shortSet? (c : Char) : Option (Bool × ShortSet) :=
  match c with
  | 'd' => some (false, .digit)
  | 'D' => some (true, .digit)
  | 's' => some (false, .space)
  | 'S' => some (true, .space)
  | 'w' => some (false, .word)
  | 'W' => some (true, .word)
  | _ => none

def isHexDigit (c : Char) : Bool := (Text.digit? 16 c).isSome

/-- A code point as a character. -/
def scalar? (n : Nat) : Option Char := if n.isValidChar then some (Char.ofNat n) else none

/-- The character with a code in hexadecimal. -/
def charOfHex? (digits : List Char) : Option Char := (Text.number? 16 digits).bind scalar?

/-- Reads so many hexadecimal digits. -/
def readHexDigits : Nat → Cursor → Except Fault (List Char × Cursor)
  | 0, cur => .ok ([], cur)
  | n + 1, cur =>
    match cur.rest with
    | [] => .error ⟨.escapeUnexpectedEnd, cur.here, none⟩
    | c :: _ =>
      if isHexDigit c then (readHexDigits n cur.advance).map fun r => (c :: r.1, r.2)
      else .error ⟨.escapeHexInvalidDigit, cur.charSpan, none⟩

/-- Reads a code between braces; the cursor stands at the opening one. -/
def readBracedHex (cur : Cursor) : Except Fault (Char × Cursor) :=
  let (digits, stop) := cur.advance.takeWhile isHexDigit
  match stop.rest with
  | [] => .error ⟨.escapeUnexpectedEnd, stop.since cur.place, none⟩
  | '\x7d' :: _ =>
    let after := stop.advance
    if digits.isEmpty then .error ⟨.escapeHexEmpty, after.since cur.place, none⟩
    else
      match charOfHex? digits with
      | some c => .ok (c, after)
      | none => .error ⟨.escapeHexInvalid, stop.since cur.next.place, none⟩
  | _ => .error ⟨.escapeHexInvalidDigit, stop.charSpan, none⟩

/-- Reads the code of a character: so many digits, or any number between braces.  The cursor stands
at the letter that introduces it. -/
def readHex (start : Place) (digits : Nat) (cur : Cursor) : Except Fault (Literal × Cursor) :=
  let code := cur.advance
  match code.rest with
  | [] => .error ⟨.escapeUnexpectedEnd, code.here, none⟩
  | '\x7b' :: _ => (readBracedHex code).map fun r => (⟨r.2.since start, r.1, false⟩, r.2)
  | _ => do
    let (ds, after) ← readHexDigits digits code
    match charOfHex? ds with
    | some c => .ok (⟨after.since start, c, digits == 2⟩, after)
    | none => .error ⟨.escapeHexInvalid, after.since code.place, none⟩

/-- A text cut at the first place where another text stands. -/
def cutAt (mark : List Char) : List Char → Option (List Char × List Char)
  | [] => none
  | c :: cs =>
    if mark.isPrefixOf (c :: cs) then some ([], (c :: cs).drop mark.length)
    else (cutAt mark cs).map fun r => (c :: r.1, r.2)

/-- A query as it is written between braces.  An inequality is read as an equality. -/
def PropertyQuery.ofText (name : List Char) : PropertyQuery :=
  match cutAt ['!', '='] name <|> cutAt [':'] name <|> cutAt ['='] name with
  | some (name, value) => .valued (String.ofList name) (String.ofList value)
  | none => .named (String.ofList name)

/-- Reads the query of a property, of one letter or between braces.  The cursor stands at the
letter that introduces it. -/
def readProperty (cur : Cursor) : Except Fault (PropertyQuery × Cursor) :=
  let query := cur.advance
  match query.rest with
  | [] => .error ⟨.escapeUnexpectedEnd, query.here, none⟩
  | '\x7b' :: _ =>
    let (name, stop) := query.advance.takeWhile (· != '\x7d')
    if stop.rest.isEmpty then .error ⟨.escapeUnexpectedEnd, stop.here, none⟩
    else .ok (.ofText name, stop.next)
  | '\\' :: _ => .error ⟨.propertyNameInvalid, query.charSpan, none⟩
  | c :: _ => .ok (.named c.toString, query.advance)

/-- The kinds of boundaries that are named between braces. -/
def namedBoundary? (name : String) : Option Anchor :=
  match name with
  | "start" => some .wordStart
  | "end" => some .wordEnd
  | "start-half" => some .wordStartHalf
  | "end-half" => some .wordEndHalf
  | _ => none

/-- Reads the kind of a boundary between braces, if one stands there; what starts with neither a
letter nor a hyphen is left to the reader of repetitions.  The cursor stands at the opening brace,
and `start` is where the boundary starts. -/
def readBoundaryKind? (start : Place) (cur : Cursor) : Except Fault (Option (Anchor × Cursor)) :=
  let contents := cur.advance
  let isPart (c : Char) : Bool := c.isAlpha || c == '-'
  match contents.rest with
  | [] => .error ⟨.specialBoundaryUnexpectedEnd, contents.since start, none⟩
  | c :: _ =>
    if isPart c then
      let (name, stop) := contents.takeWhile isPart
      if stop.rest.head? = some '\x7d' then
        match namedBoundary? (String.ofList name) with
        | some a => .ok (some (a, stop.next))
        | none => .error ⟨.specialBoundaryUnrecognized, stop.since contents.place, none⟩
      else .error ⟨.specialBoundaryUnclosed, stop.since cur.place, none⟩
    else .ok none

/-- Reads an anchor of one letter, which the cursor has passed, with the kind of a boundary. -/
def readAnchor (start : Place) (a : Anchor) (cur : Cursor) : Except Fault (Atom × Cursor) := do
  let kind? ←
    if a = .boundary ∧ cur.rest.head? = some '\x7b' then readBoundaryKind? start cur
    else .ok none
  match kind? with
  | some (kind, after) => .ok (.anchor (after.since start) kind, after)
  | none => .ok (.anchor (cur.since start) a, cur)

/-- Reads an escape; the cursor stands at the backslash. -/
def readEscape (cur : Cursor) : Except Fault (Atom × Cursor) :=
  let start := cur.place
  let letter := cur.next
  match letter.rest with
  | [] => .error ⟨.escapeUnexpectedEnd, letter.since start, none⟩
  | c :: _ =>
    let after := letter.next
    let span := after.since start
    let literal (r : Literal × Cursor) : Atom × Cursor := (.literal r.1, r.2)
    if c.isDigit then .error ⟨.unsupportedBackreference, span, none⟩
    else if c = 'x' then (readHex start 2 letter).map literal
    else if c = 'u' then (readHex start 4 letter).map literal
    else if c = 'U' then (readHex start 8 letter).map literal
    else if c = 'p' ∨ c = 'P' then
      (readProperty letter).map fun r => (.property (r.2.since start) (c == 'P') r.1, r.2)
    else if escapesToItself c then .ok (.literal ⟨span, c, false⟩, after)
    else
      match shortSet? c, namedCharacter? c, namedAnchor? c with
      | some (negated, s), _, _ => .ok (.short span negated s, after)
      | _, some d, _ => .ok (.literal ⟨span, d, false⟩, after)
      | _, _, some a => readAnchor start a after
      | _, _, _ => .error ⟨.escapeUnrecognized, span, none⟩

end BenchRoster.Pattern
