/-
# Cutting a document into tokens

Tokens are found from left to right.  Two things are settled only later: whether a value is the key
of a mapping entry, which shows at the colon after it, and where a block collection ends, which
shows at the next line that is indented less.  A token is released once no possible key can still be
put before it.  When a fault is found, the tokens released before it are what is left of the
document.
-/
import BenchRoster.Yaml.Lexeme.Block
import BenchRoster.Yaml.Lexeme.Plain
import BenchRoster.Yaml.Lexeme.Quoted
import BenchRoster.Yaml.Lexeme.Tag

namespace BenchRoster.Yaml

/-- A value that may turn out to be a key. -/
structure Candidate where
  /-- In this place only a key can stand. -/
  required : Bool
  /-- The number of the value's first token. -/
  number : Nat
  mark : Mark
deriving Repr

/-- The longest key, in characters. -/
def maxKeyLength : Nat := 1024

/-- A candidate is no key any more when its line has ended or it has become too long. -/
def Candidate.stale (k : Candidate) (now : Mark) : Bool :=
  k.mark.line < now.line || k.mark.index + maxKeyLength < now.index

/-- Cutting in progress. -/
structure Cutter where
  cursor : Cursor
  /-- Tokens that wait for their release. -/
  waiting : List Token
  /-- The number of tokens released. -/
  released : Nat
  /-- The indentation of the innermost block collection, below zero outside of all. -/
  indent : Int
  /-- The indentations around it. -/
  outer : List Int
  /-- A key may begin here. -/
  keyAllowed : Bool
  /-- The possible key outside of all flow collections. -/
  candidate : Option Candidate
  /-- The possible keys in the flow collections around this place, innermost first. -/
  flow : List (Option Candidate)
  /-- The end of the document has been turned into a token. -/
  finished : Bool
deriving Repr

namespace Cutter

/-- The beginning of a document. -/
def ofString (s : String) : Cutter :=
  { cursor := .ofString s, waiting := [⟨.streamStart, .start, .start⟩], released := 0, indent := -1,
    outer := [], keyAllowed := true, candidate := none, flow := [], finished := false }

def inFlow (t : Cutter) : Bool := !t.flow.isEmpty

def mark (t : Cutter) : Mark := t.cursor.mark

/-- Adds a token at the end. -/
def push (t : Cutter) (lexeme : Lexeme) (start stop : Mark) : Cutter :=
  { t with waiting := t.waiting ++ [⟨lexeme, start, stop⟩] }

/-- Puts a token before the token of the given number. -/
def insertAt (t : Cutter) (number : Nat) (lexeme : Lexeme) (mark : Mark) : Cutter :=
  -- numbers count from the first token of the text, places from the first that waits
  let k := number - t.released
  { t with waiting := t.waiting.take k ++ ⟨lexeme, mark, mark⟩ :: t.waiting.drop k }

/-- The possible keys, the one outside of flow collections first. -/
def candidates (t : Cutter) : List Candidate :=
  (t.candidate :: t.flow.reverse).filterMap id

/-- The innermost possible key. -/
def current (t : Cutter) : Option Candidate :=
  match t.flow with
  | [] => t.candidate
  | k :: _ => k

def setCurrent (t : Cutter) (k : Option Candidate) : Cutter :=
  match t.flow with
  | [] => { t with candidate := k }
  | _ :: ks => { t with flow := k :: ks }

/-- A key that must stand somewhere is missing. -/
def missingColon {α : Type} (t : Cutter) (k : Candidate) : Except Fault α :=
  fault .simpleKey k.mark .colonExpected t.mark

/-- Gives up the possible keys that have become stale. -/
def dropStale (t : Cutter) : Except Fault Cutter :=
  match t.candidates.find? fun k => k.required && k.stale t.mark with
  | some k => t.missingColon k
  | none =>
    let keep (k : Option Candidate) : Option Candidate := k.filter fun k => !k.stale t.mark
    .ok { t with candidate := keep t.candidate, flow := t.flow.map keep }

/-- Gives up the innermost possible key. -/
def dropCurrent (t : Cutter) : Except Fault Cutter :=
  match t.current with
  | some k => if k.required then t.missingColon k else .ok (t.setCurrent none)
  | none => .ok t

/-- Notes that a key may begin here. -/
def noteCandidate (t : Cutter) : Except Fault Cutter :=
  if t.keyAllowed then do
    -- at the indentation of a block mapping nothing but a key can stand
    let required := !t.inFlow && t.indent == t.mark.column
    let t ← t.dropCurrent
    .ok (t.setCurrent (some ⟨required, t.released + t.waiting.length, t.mark⟩))
  else .ok t

/-- Opens a block collection if the column is further in; its token goes before the token of the
given number, or to the end. -/
def openBlock (t : Cutter) (column : Nat) (number : Option Nat) (lexeme : Lexeme) (mark : Mark) :
    Cutter :=
  if !t.inFlow && t.indent < column then
    let t := { t with outer := t.indent :: t.outer, indent := column }
    match number with
    | none => t.push lexeme mark mark
    | some n => t.insertAt n lexeme mark
  else t

/-- The indentations that are further in than the column, and those that are left. -/
def unindent (column : Int) : Int → List Int → Nat × Int × List Int
  | indent, [] => if column < indent then (1, -1, []) else (0, indent, [])
  | indent, o :: os =>
    if column < indent then
      let (n, i, rest) := unindent column o os
      (n + 1, i, rest)
    else (0, indent, o :: os)

/-- Closes the block collections that are further in than the column. -/
def closeBlocks (t : Cutter) (column : Int) : Cutter :=
  if t.inFlow then t
  else
    let (n, indent, outer) := unindent column t.indent t.outer
    { t with
      indent, outer
      waiting := t.waiting ++ List.replicate n ⟨.blockEnd, t.mark, t.mark⟩ }

/-- Takes blanks, comments and line breaks.  A tab counts as a blank only where no key may begin. -/
def spaceStep (inFlow : Bool) (keyAllowed : Bool) (c : Cursor) :
    Except Fault (Option Bool × Cursor) :=
  let c := if c.mark.column = 0 ∧ c.sees 0 '\uFEFF' then c.skip else c
  let c := c.skipWhile fun ch => ch == ' ' || ((inFlow || !keyAllowed) && ch == '\t')
  let c := c.skipComment
  if c.has 0 isBreak then .ok (some (keyAllowed || !inFlow), c.skipBreak)
  else .ok (none, c)

/-- Goes to the next token. -/
def skipSpace (t : Cutter) : Except Fault Cutter := do
  let (keyAllowed, cursor) ← iterate Cursor.size (spaceStep t.inFlow) t.keyAllowed t.cursor
  .ok { t with keyAllowed, cursor }

/-- Adds a token of some characters of the line. -/
def takeMark (t : Cutter) (n : Nat) (lexeme : Lexeme) : Cutter :=
  let c := t.cursor.skipN n
  { t with cursor := c, waiting := t.waiting ++ [⟨lexeme, t.mark, c.mark⟩] }

/-- Adds a token that has been read. -/
def take (t : Cutter) (token : Token) (cursor : Cursor) : Cutter :=
  { t with cursor, waiting := t.waiting ++ [token] }

/-- The end of the document closes all blocks; it stands on a line of its own. -/
def finish (t : Cutter) : Except Fault Cutter := do
  let m := t.mark
  -- a last line without a break ends as if it had one
  let m := if m.column = 0 then m else ⟨m.index, m.line + 1, 0⟩
  let t := { t with cursor := { t.cursor with mark := m } }
  let t ← (t.closeBlocks (-1)).dropCurrent
  .ok { t.push .streamEnd m m with keyAllowed := false, finished := true }

/-- A directive. -/
def directive (t : Cutter) : Except Fault Cutter := do
  let t ← (t.closeBlocks (-1)).dropCurrent
  let (token, c) ← scanDirective t.cursor
  .ok { t.take token c with keyAllowed := false }

/-- The mark of a document's start or end. -/
def documentMark (t : Cutter) (lexeme : Lexeme) : Except Fault Cutter := do
  let t ← (t.closeBlocks (-1)).dropCurrent
  .ok { t.takeMark 3 lexeme with keyAllowed := false }

/-- The opening of a flow collection, which may itself be a key. -/
def flowStart (t : Cutter) (lexeme : Lexeme) : Except Fault Cutter := do
  let t ← t.noteCandidate
  let t := { t with flow := none :: t.flow, keyAllowed := true }
  .ok (t.takeMark 1 lexeme)

/-- The closing of a flow collection. -/
def flowEnd (t : Cutter) (lexeme : Lexeme) : Except Fault Cutter := do
  let t ← t.dropCurrent
  let t := { t with flow := t.flow.tail, keyAllowed := false }
  .ok (t.takeMark 1 lexeme)

/-- The comma between the entries of a flow collection. -/
def flowEntry (t : Cutter) : Except Fault Cutter := do
  let t ← t.dropCurrent
  .ok ({ t with keyAllowed := true }.takeMark 1 .flowEntry)

/-- The dash before an item of a block sequence. -/
def blockEntry (t : Cutter) : Except Fault Cutter := do
  let t ←
    if t.inFlow then .ok t
    else if t.keyAllowed then
      .ok (t.openBlock t.mark.column none .blockSequenceStart t.mark)
    else bareFault .blockEntryNotAllowed t.mark
  let t ← t.dropCurrent
  .ok ({ t with keyAllowed := true }.takeMark 1 .blockEntry)

/-- The question mark before a key. -/
def key (t : Cutter) : Except Fault Cutter := do
  let t ←
    if t.inFlow then .ok t
    else if t.keyAllowed then .ok (t.openBlock t.mark.column none .blockMappingStart t.mark)
    else bareFault .keyNotAllowed t.mark
  let t ← t.dropCurrent
  .ok ({ t with keyAllowed := !t.inFlow }.takeMark 1 .key)

/-- The colon before a value; what stands before it may turn out to be a key. -/
def value (t : Cutter) : Except Fault Cutter :=
  match t.current with
  | some k =>
    -- the value before the colon is a key, and perhaps the first one of its mapping
    let t := t.insertAt k.number .key k.mark
    let t := t.openBlock k.mark.column (some k.number) .blockMappingStart k.mark
    .ok ({ t.setCurrent none with keyAllowed := false }.takeMark 1 .value)
  | none => do
    let t ←
      if t.inFlow then .ok t
      else if t.keyAllowed then .ok (t.openBlock t.mark.column none .blockMappingStart t.mark)
      else bareFault .valueNotAllowed t.mark
    .ok ({ t with keyAllowed := !t.inFlow }.takeMark 1 .value)

/-- A token that may begin a key. -/
def keyPart (t : Cutter) (scan : Cursor → Except Fault (Token × Cursor)) : Except Fault Cutter := do
  let t ← t.noteCandidate
  let (token, c) ← scan t.cursor
  .ok { t.take token c with keyAllowed := false }

/-- A block scalar, which is never a key. -/
def blockScalar (t : Cutter) (folded : Bool) : Except Fault Cutter := do
  let t ← t.dropCurrent
  let (token, c) ← scanBlock folded t.indent t.cursor
  .ok { t.take token c with keyAllowed := true }

/-- A plain scalar; after it a key may begin if a line break follows. -/
def plainScalar (t : Cutter) : Except Fault Cutter := do
  let t ← t.noteCandidate
  let (token, broken, c) ← scanPlain t.inFlow t.indent t.cursor
  .ok { t.take token c with keyAllowed := broken }

/-- The characters that cannot begin a plain scalar, apart from what follows them. -/
def isIndicator (ch : Char) : Bool :=
  ['-', '?', ':', ',', '[', ']', '\x7b', '\x7d', '#', '&', '*', '!', '|', '>', '\'', '"', '%', '@',
    '\x60'].contains ch

/-- A plain scalar begins here. -/
def startsPlain (t : Cutter) (ch : Char) : Bool :=
  let c := t.cursor
  !(isBlank ch || isIndicator ch) ||
    (ch == '-' && !c.has 1 isBlank) ||
    (!t.inFlow && (ch == '?' || ch == ':') && !c.blankOrEnd 1)

/-- Reads the token that begins at a character. -/
def tokenAt (t : Cutter) (ch : Char) : Except Fault Cutter :=
  let c := t.cursor
  if c.mark.column = 0 ∧ ch = '%' then t.directive
  else if c.seesTriple '-' then t.documentMark .documentStart
  else if c.seesTriple '.' then t.documentMark .documentEnd
  else if ch = '[' then t.flowStart .flowSequenceStart
  else if ch = '\x7b' then t.flowStart .flowMappingStart
  else if ch = ']' then t.flowEnd .flowSequenceEnd
  else if ch = '\x7d' then t.flowEnd .flowMappingEnd
  else if ch = ',' then t.flowEntry
  else if ch = '-' ∧ c.blankOrEnd 1 then t.blockEntry
  else if ch = '?' ∧ (t.inFlow ∨ c.blankOrEnd 1) then t.key
  else if ch = ':' ∧ (t.inFlow ∨ c.blankOrEnd 1) then t.value
  else if ch = '*' then t.keyPart (scanName true)
  else if ch = '&' then t.keyPart (scanName false)
  else if ch = '!' then t.keyPart (scanTag t.inFlow)
  else if ch = '|' ∧ ¬ t.inFlow then t.blockScalar false
  else if ch = '>' ∧ ¬ t.inFlow then t.blockScalar true
  else if ch = '\'' then t.keyPart (scanQuoted true)
  else if ch = '"' then t.keyPart (scanQuoted false)
  else if t.startsPlain ch then t.plainScalar
  else fault .nextToken c.mark .badCharacter c.mark

/-- Finds the next token. -/
def fetch (t : Cutter) : Except Fault Cutter := do
  let t ← t.skipSpace
  let t ← t.dropStale
  let t := t.closeBlocks t.mark.column
  match t.cursor.rest with
  | [] => t.finish
  | ch :: _ => t.tokenAt ch

/-- Releases the waiting tokens up to the first that a possible key may still precede. -/
def release : List Token → Cutter → List Token → Cutter × List Token × Option Fault
  | [], t, out => ({ t with waiting := [] }, out, none)
  | token :: waiting, t, out =>
    match t.dropStale with
    | .error f => (t, out, some f)
    | .ok t =>
      -- this token may yet get a key's mark in front of it
      if t.candidates.any fun k => k.number == t.released then
        ({ t with waiting := token :: waiting }, out, none)
      else release waiting { t with released := t.released + 1 } (token :: out)

/-- What is left to do: the characters, and the end of the document. -/
def size (t : Cutter) : Nat := t.cursor.rest.length + if t.finished then 0 else 1

theorem dropStale_size {t t' : Cutter} (h : t.dropStale = .ok t') : t'.size = t.size := by
  unfold dropStale at h
  split at h
  · simp [missingColon, fault] at h
  · cases h; rfl

/-- Releasing tokens takes no characters. -/
theorem release_size (waiting : List Token) (t : Cutter) (out : List Token) :
    (release waiting t out).1.size = t.size := by
  induction waiting generalizing t out with
  | nil => rfl
  | cons token waiting ih =>
    rw [release]
    split
    · rfl
    · rename_i t' h
      split
      · exact (dropStale_size h :)
      · rw [ih]
        exact (dropStale_size h :)

/-- Cuts the rest of the document; the tokens released so far are in reverse. -/
def run (t : Cutter) (found : List Token) : List Token × Option Fault :=
  match h : release t.waiting t found with
  | (_, out, some f) => (out.reverse, some f)
  | (t₁, out, none) =>
    have same : t₁.size = t.size := by
      have hr := release_size t.waiting t found
      rwa [h] at hr
    if t₁.finished then (out.reverse, none)
    else
      match t₁.fetch with
      | .error f => (out.reverse, some f)
      | .ok t₂ => if t₂.size < t₁.size then run t₂ out else (out.reverse, none)
termination_by t.size
decreasing_by omega

end Cutter

/-- Whether a character may occur in a document at all. -/
def isAllowed (ch : Char) : Bool :=
  let n := ch.toNat
  n == 9 || n == 10 || n == 13 || (0x20 ≤ n && n ≤ 0x7E) || n == 0x85 ||
    (0xA0 ≤ n && n ≤ 0xD7FF) || (0xE000 ≤ n && n ≤ 0xFFFD) || 0x10000 ≤ n

/-- The fault of a character that may not occur, placed by the number of bytes before it. -/
def controlFault? (cs : List Char) : Option Fault :=
  let fine := cs.takeWhile isAllowed
  if fine.length < cs.length then
    some { problem := .controlCharacter, mark := .start, offset := (Text.encode fine).length }
  else none

/-- The tokens of a document up to the first fault. -/
def tokens (s : String) : List Token × Option Fault :=
  match controlFault? s.toList with
  | some f => ([], some f)
  | none => Cutter.run (.ofString s) []

end BenchRoster.Yaml
