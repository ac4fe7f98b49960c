/-
# Patterns

Regular expressions over texts, as trees.  A filter selects the benchmarks whose identifier has a
part that the pattern matches.

A pattern relates places of a text: from which place a match can lead to which.  The relation is
computed part by part, as the rows of a square table of bits, so that the cost depends on the length
of the text and on the number of parts only, and not on the ways in which they can match.
-/
import BenchRoster.Decimal.Power
import BenchRoster.Pattern.CharSet

namespace BenchRoster

/-- What can be asked of a place without moving on. -/
inductive Anchor where
  | textStart
  | textEnd
  | lineStart
  | lineEnd
  /-- Exactly one of the characters around the place belongs to a word. -/
  | boundary
  | noBoundary
  | wordStart
  | wordEnd
  /-- The character before the place belongs to no word. -/
  | wordStartHalf
  /-- The character after the place belongs to no word. -/
  | wordEndHalf
deriving DecidableEq, Repr

/-- A regular expression. -/
inductive Pattern where
  | empty
  | oneOf (s : CharSet)
  | anchor (a : Anchor)
  /-- A part whose extent is noted. -/
  | captured (p : Pattern)
  | both (p q : Pattern)
  | either (p q : Pattern)
  /-- At least, and if there is a bound at most, so many times. -/
  | times (least : Nat) (most : Option Nat) (p : Pattern)
deriving DecidableEq, Repr

/-- A place in a text: the characters around it. -/
structure Spot where
  before : Option Char
  after : Option Char
deriving DecidableEq, Repr

namespace Spot

def isWord (c : Option Char) : Bool := (c.map CharSet.word.has).getD false

/-- Whether a place is as an anchor asks. -/
def holds (s : Spot) : Anchor → Bool
  | .textStart => s.before.isNone
  | .textEnd => s.after.isNone
  | .lineStart => s.before.isNone || s.before == some '\n'
  | .lineEnd => s.after.isNone || s.after == some '\n'
  | .boundary => isWord s.before != isWord s.after
  | .noBoundary => isWord s.before == isWord s.after
  | .wordStart => !isWord s.before && isWord s.after
  | .wordEnd => isWord s.before && !isWord s.after
  | .wordStartHalf => !isWord s.before
  | .wordEndHalf => !isWord s.after

/-- The places of a text after a character. -/
def spotsAfter (before : Option Char) : List Char → List Spot
  | [] => [⟨before, none⟩]
  | c :: cs => ⟨before, some c⟩ :: spotsAfter (some c) cs

/-- The places of a text, in order. -/
def ofText (cs : List Char) : List Spot := spotsAfter none cs

theorem length_spotsAfter (before : Option Char) (cs : List Char) :
    (spotsAfter before cs).length = cs.length + 1 := by
  induction cs generalizing before with
  | nil => rfl
  | cons c cs ih => simp [spotsAfter, ih]

end Spot

/-- A relation between places: one row for each place, in which bit `j` tells whether the place
leads to place `j`. -/
abbrev Rows := List Nat

namespace Rows

/-- The row of a single place. -/
def bit (i : Nat) : Nat := twoTo i

/-- Each place leads to itself if a flag says so. -/
def diagonal (flags : List Bool) : Rows := flags.mapIdx fun i b => if b then bit i else 0

/-- Each place leads to the next one if a flag says so. -/
def advance (flags : List Bool) : Rows := flags.mapIdx fun i b => if b then bit (i + 1) else 0

/-- Each place leads to itself only. -/
def identity (size : Nat) : Rows := diagonal (List.replicate size true)

def union (a b : Rows) : Rows := List.zipWith (· ||| ·) a b

/-- The rows of the places in a set, together. -/
def image : Nat → Rows → Nat
  | _, [] => 0
  | places, r :: rs => (if places % 2 = 1 then r else 0) ||| image (places / 2) rs

/-- One relation after the other. -/
def compose (a b : Rows) : Rows := a.map fun r => image r b

/-- A relation repeated so many times, by squaring. -/
def power (r : Rows) (n : Nat) : Rows :=
  if n = 0 then identity r.length
  else
    let half := power r (n / 2)
    let even := compose half half
    if n % 2 = 0 then even else compose r even
termination_by n

/-- A relation repeated at most so many times. -/
def atMost (r : Rows) (n : Nat) : Rows := power (union (identity r.length) r) n

/-- A relation repeated any number of times: more steps than there are places add nothing. -/
def closure (r : Rows) : Rows := atMost r r.length

end Rows

namespace Pattern

/-- From which place of a text a match leads to which. -/
def rows (spots : List Spot) : Pattern → Rows
  | empty => Rows.identity spots.length
  | oneOf set => Rows.advance (spots.map fun s => (s.after.map set.has).getD false)
  | anchor a => Rows.diagonal (spots.map (·.holds a))
  | captured p => p.rows spots
  | both p q => Rows.compose (p.rows spots) (q.rows spots)
  | either p q => Rows.union (p.rows spots) (q.rows spots)
  | times least most p =>
    let r := p.rows spots
    Rows.compose (Rows.power r least)
      (match most with
      | none => Rows.closure r
      | some m => Rows.atMost r (m - least))

/-- Whether some part of the text matches. -/
def matchesIn (p : Pattern) (text : String) : Bool :=
  (p.rows (Spot.ofText text.toList)).any (· != 0)

/-- Two patterns one after the other; the empty one adds nothing. -/
def andThen : Pattern → Pattern → Pattern
  | empty, q => q
  | p, empty => p
  | p, q => both p q

/-- Patterns one after the other. -/
def sequence : List Pattern → Pattern
  | [] => empty
  | p :: ps => p.andThen (sequence ps)

/-- The alternatives of a pattern. -/
def alternatives : Pattern → List Pattern
  | either p q => p.alternatives ++ q.alternatives
  | p => [p]

/-- The set of a pattern that stands for one character. -/
def set? : Pattern → Option CharSet
  | oneOf s => some s
  | _ => none

/-- Any of some patterns. -/
def anyOf : List Pattern → Pattern
  | [] => oneOf .none
  | [p] => p
  | p :: ps => either p (anyOf ps)

/-- Any of some patterns; when each stands for one character they make one set. -/
def choice (ps : List Pattern) : Pattern :=
  let ps := ps.flatMap alternatives
  match ps.mapM set? with
  | some (s :: ss) => oneOf (.unionOf (s :: ss))
  | _ => anyOf ps

/-- A pattern that can match the empty text only. -/
def isNull : Pattern → Bool
  | empty => true
  | oneOf _ => false
  | anchor _ => true
  | captured p => p.isNull
  | both p q => p.isNull && q.isNull
  | either p q => p.isNull && q.isNull
  | times _ most p => most.isSome && p.isNull

/-- A pattern that takes at least one character. -/
def advances : Pattern → Bool
  | empty => false
  | oneOf _ => true
  | anchor _ => false
  | captured p => p.advances
  | both p q => p.advances || q.advances
  | either p q => p.advances && q.advances
  | times least _ p => 0 < least && p.advances

/-- A repetition, without what is idle in it: more than one empty match adds nothing, no time is
empty, and one time is the pattern itself. -/
def repeated (least : Nat) (most : Option Nat) (p : Pattern) : Pattern :=
  let (least, most) : Nat × Option Nat :=
    if p.isNull then (min least 1, some ((most.map (min · 1)).getD 1)) else (least, most)
  if least = 0 ∧ most = some 0 then empty
  else if least = 1 ∧ most = some 1 then p
  else times least most p

/-- A match at the start of a text, in the middle, and none. -/
example : (both (anchor .textStart) (oneOf .lower)).matchesIn "a1" = true ∧
    (oneOf .digit).matchesIn "ab1" = true ∧
    (both (times 2 none (oneOf .digit)) (anchor .textEnd)).matchesIn "12a" = false := by
  decide +kernel

end Pattern

end BenchRoster
