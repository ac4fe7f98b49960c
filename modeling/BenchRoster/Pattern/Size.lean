/-
# The size of patterns

A pattern is compiled into states, once for reading a text forward and once backward, and is refused
when either takes too much room.  A state takes 32 bytes, a range of a state that chooses by the
next byte eight, and an alternative of a state that branches four.  The size of the part of a set
beyond ASCII is an estimate.
-/
import BenchRoster.Pattern.Reading
import BenchRoster.Pattern.Meaning

namespace BenchRoster.Pattern

/-- The direction in which a text is read. -/
inductive Direction where
  | forward
  | backward
deriving DecidableEq, Repr

def stateBytes : Nat := 32

/-- A state with so many branches. -/
def branchBytes (n : Nat) : Nat := stateBytes + 4 * n

/-- The room that a set takes: a state for each byte of a single character; else a state that
chooses among ranges and one where they meet; beyond ASCII each range has states of its own when it
is read backward. -/
def setBytes (d : Direction) (s : CharSet) : Nat :=
  match s.literalBytes? with
  | some n => stateBytes * n
  | none =>
    let b := s.bulk false
    if s.isAscii then 2 * stateBytes + 8 * s.asciiRanges
    else
      match d with
      | .forward => b.forward + 8 * s.asciiRanges
      | .backward => b.backward + (stateBytes + 4) * s.asciiRanges

/-- The room for a part that is repeated, of the given size. -/
def timesBytes (least : Nat) (most : Option Nat) (advances : Bool) (part : Nat) : Nat :=
  match least, most with
  | 0, some 1 => branchBytes 2 + part + stateBytes
  | 0, none => if advances then part + branchBytes 2 else part + 2 * branchBytes 2 + stateBytes
  | least, none => least * part + branchBytes 2
  | least, some most =>
    let copies := if least = 0 then stateBytes else least * part
    if most ≤ least then copies
    else copies + stateBytes + (most - least) * (part + branchBytes 2)

/-- The room that a pattern takes when texts are read in a direction.  The extent of a part is noted
only forward. -/
def bytes (d : Direction) : Pattern → Nat
  | empty => stateBytes
  | oneOf s => setBytes d s
  | anchor _ => stateBytes
  | captured p => p.bytes d + (if d = .forward then 2 * stateBytes else 0)
  | both p q => p.bytes d + q.bytes d
  | either p q => branches d p + branches d q + 2 * stateBytes
  | times least most p => timesBytes least most p.advances (p.bytes d)
where
  /-- The room of the alternatives of a part of an alternation, each with its branch. -/
  branches (d : Direction) : Pattern → Nat
    | either p q => branches d p + branches d q
    | p => p.bytes d + 4

/-- Whether every match starts, or ends, where the text does. -/
def isAnchored (d : Direction) : Pattern → Bool
  | anchor a => a == (if d = .forward then .textStart else .textEnd)
  | captured p => p.isAnchored d
  | both p q =>
    match d with
    | .forward => p.isAnchored d || (p.isNull && q.isAnchored d)
    | .backward => q.isAnchored d || (q.isNull && p.isAnchored d)
  | either p q => p.isAnchored d && q.isAnchored d
  | times least _ p => 0 < least && p.isAnchored d
  | _ => false

/-- The room that all of a pattern takes: the pattern, its extent, the states at its ends, and, if
it is not anchored, a loop over the bytes before it. -/
def totalBytes (p : Pattern) (d : Direction) : Nat :=
  let start := if p.isAnchored d then stateBytes else branchBytes 2 + 2 * stateBytes + 8
  (captured p).bytes d + stateBytes + start

/-- The room that a compiled pattern may take. -/
def largest : Nat := 10485760

/-- Why a text is refused as a pattern. -/
inductive Refusal where
  | fault (f : Fault)
  | tooLarge
deriving DecidableEq, Repr

def Refusal.message (text : String) : Refusal → String
  | fault f => f.message text
  | tooLarge => s!"Compiled regex exceeds size limit of {largest} bytes."

/-- The pattern that a text writes, or why there is none. -/
def ofString (text : String) : Except Refusal Pattern :=
  match Form.ofText text >>= fun form => form.meaning {} with
  | .error f => .error (.fault f)
  | .ok (p, _) =>
    if p.totalBytes .forward ≤ largest ∧ p.totalBytes .backward ≤ largest then .ok p
    else .error .tooLarge

end BenchRoster.Pattern
