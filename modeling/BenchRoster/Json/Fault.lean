/-
# Faults in a document

Why a document cannot be read, and where.  A fault remembers the characters that were still unread;
its line and column are worked out from the whole text at the end.  Columns count bytes.
-/
import BenchRoster.Mismatch
import BenchRoster.Text.Utf8

namespace BenchRoster.Json

/-- Why a document cannot be read. -/
inductive Cause where
  | eofInList
  | eofInObject
  | eofInText
  | eofInValue
  | expectedColon
  | expectedListEnd
  | expectedObjectEnd
  | expectedWord
  | expectedValue
  | invalidEscape
  | invalidNumber
  | numberTooLarge
  | keyNotText
  | loneSurrogate
  | unfinishedSurrogate
  | controlCharacter
  | trailingComma
  | trailingCharacters
  | mismatch (m : Mismatch)
deriving DecidableEq, Repr

/-- Messages call a null by its word, and write floating point numbers compactly. -/
def wording : Wording := ⟨"null", .compact⟩

def Cause.message : Cause → String
  | eofInList => "EOF while parsing a list"
  | eofInObject => "EOF while parsing an object"
  | eofInText => "EOF while parsing a string"
  | eofInValue => "EOF while parsing a value"
  | expectedColon => "expected `:`"
  | expectedListEnd => "expected `,` or `]`"
  | expectedObjectEnd => "expected `,` or `\x7d`"
  | expectedWord => "expected ident"
  | expectedValue => "expected value"
  | invalidEscape => "invalid escape"
  | invalidNumber => "invalid number"
  | numberTooLarge => "number out of range"
  | keyNotText => "key must be a string"
  | loneSurrogate => "lone leading surrogate in hex escape"
  | unfinishedSurrogate => "unexpected end of hex escape"
  | controlCharacter =>
    "control character (\\u0000-\\u001F) found while parsing a string"
  | trailingComma => "trailing comma"
  | trailingCharacters => "trailing characters"
  | mismatch m => m.message wording

/-- A place in a document, given by what follows it. -/
inductive Place where
  /-- The place lies this number of bytes into the given rest, and no further than its end. -/
  | at (rest : List Char) (bytes : Nat)
  /-- The fault concerns a whole value; the place is taken where the value around it ends, or there
  is none. -/
  | pending (rest : List Char)
deriving DecidableEq, Repr

structure Fault where
  cause : Cause
  place : Place
deriving DecidableEq, Repr

/-- A fault just before the unread characters. -/
def faultHere {α : Type} (cause : Cause) (rest : List Char) : Except Fault α :=
  .error ⟨cause, .at rest 0⟩

/-- A fault at the first unread byte. -/
def faultAhead {α : Type} (cause : Cause) (rest : List Char) : Except Fault α :=
  .error ⟨cause, .at rest 1⟩

/-- A mismatch whose place is not yet known. -/
def faultPending {α : Type} (m : Mismatch) (rest : List Char) : Except Fault α :=
  .error ⟨.mismatch m, .pending rest⟩

/-- Gives a pending fault its place. -/
def Fault.settle (f : Fault) (close : List Char → List Char) : Fault :=
  match f.place with
  | .at _ _ => f
  | .pending rest => ⟨f.cause, .at (close rest) 0⟩

/-- Line and column after the given bytes: lines from one, columns in bytes from zero. -/
def lineColumn (bytes : List UInt8) : Nat × Nat :=
  bytes.foldl (fun p b => if b = 10 then (p.1 + 1, 0) else (p.1, p.2 + 1)) (1, 0)

/-- The text shown for a fault in a document. -/
def Fault.message (document : List Char) (f : Fault) : String :=
  match f.place with
  | .pending _ => f.cause.message
  | .at rest bytes =>
    let all := Text.encode document
    let index := all.length - (Text.encode rest).length + bytes
    let (line, column) := lineColumn (all.take index)
    s!"{f.cause.message} at line {line} column {column}"

end BenchRoster.Json
