/-
# Sets in brackets

Reads what stands between square brackets: characters, ranges, escapes, named sets, sets inside the
set, and operations, which bind to the left and take all that stands before and after them.
-/
import BenchRoster.Iterate
import BenchRoster.Pattern.Escape

namespace BenchRoster.Pattern

/-- The named sets of ASCII characters. -/
def namedSet? (name : String) : Option CharSet :=
  match name with
  | "alnum" => some .letterOrDigit
  | "alpha" => some .letter
  | "ascii" => some (.range '\x00' '\x7f')
  | "blank" => some (.ofList ['\t', ' '])
  | "cntrl" => some (.union (.range '\x00' '\x1f') (.single '\x7f'))
  | "digit" => some .digit
  | "graph" => some (.range '!' '~')
  | "lower" => some .lower
  | "print" => some (.range ' ' '~')
  | "punct" => some .punctuation
  | "space" => some .space
  | "upper" => some .upper
  | "word" => some .word
  | "xdigit" => some (.union .digit (.union (.range 'a' 'f') (.range 'A' 'F')))
  | _ => none

/-- Reads a named set between bracket and colon, if there is one. -/
def readNamedSet? (cur : Cursor) : Option (SetForm × Cursor) :=
  match cur.rest with
  | '[' :: ':' :: rest =>
    let (negated, rest, before) :=
      match rest with
      | '^' :: rest => (true, rest, 3)
      | rest => (false, rest, 2)
    let name := rest.takeWhile (· != ':')
    match rest.drop name.length with
    | ':' :: ']' :: _ =>
      (namedSet? (String.ofList name)).map fun s =>
        let after := cur.skip (before + name.length + 2)
        (.named (after.since cur.place) negated s, after)
    | _ => none
  | _ => none

/-- The sets of a union, which are kept in reverse; `start` is where the union starts. -/
def SetForm.ofItems (start : Place) (items : List SetForm) : SetForm :=
  match items with
  | [] => .empty ⟨start, start⟩
  | [s] => s
  | last :: _ => .union ((items.getLast?.getD last).span.through last.span) items.reverse

/-- A bracket that has been opened: its opening, whether the set is negated, the left side and the
operation that wait for the right side, and the sets read since then, in reverse. -/
structure OpenSet where
  opening : Span
  negated : Bool
  pending : Option (SetForm × SetOperation) := none
  start : Place
  items : List SetForm := []

namespace OpenSet

def unclosed (o : OpenSet) : Fault := ⟨.classUnclosed, o.opening, none⟩

def add (o : OpenSet) (s : SetForm) : OpenSet := { o with items := s :: o.items }

/-- The set so far, with the operation that was waiting. -/
def settled (o : OpenSet) : SetForm :=
  let right := SetForm.ofItems o.start o.items
  match o.pending with
  | some (left, op) => .operation (left.span.through right.span) op left right
  | none => right

/-- An operation waits for its right side. -/
def operate (o : OpenSet) (op : SetOperation) (start : Place) : OpenSet :=
  { o with pending := some (o.settled, op), start, items := [] }

end OpenSet

/-- Reads the hyphens that stand for themselves at the start of a set. -/
def readHyphens (opening : Place) (cur : Cursor) : Except Fault (List SetForm × Cursor) :=
  let step (items : List SetForm) (cur : Cursor) :
      Except Fault (Option (List SetForm) × Cursor) :=
    match cur.rest with
    | '-' :: _ =>
      let after := cur.advance
      if after.rest.isEmpty then .error ⟨.classUnclosed, ⟨opening, opening⟩, none⟩
      else .ok (some (.literal ⟨cur.charSpan, '-', false⟩ :: items), after)
    | _ => .ok (none, cur)
  iterate (·.rest.length) step [] cur

/-- Reads the opening of a set, with what stands for itself at its start; the cursor stands at the
bracket. -/
def readOpening (cur : Cursor) : Except Fault (OpenSet × Cursor) := do
  let opening := cur.place
  let unclosed (cur : Cursor) : Except Fault Unit :=
    if cur.rest.isEmpty then .error ⟨.classUnclosed, cur.since opening, none⟩ else .ok ()
  let cur := cur.advance
  unclosed cur
  let negated := cur.rest.head? == some '^'
  let cur := if negated then cur.advance else cur
  unclosed cur
  let start := cur.place
  let (items, cur) ← readHyphens opening cur
  if items.isEmpty ∧ cur.rest.head? = some ']' then
    let after := cur.advance
    unclosed after
    let items := [SetForm.literal ⟨cur.charSpan, ']', false⟩]
    .ok ({ opening := after.since opening, negated, start, items }, after)
  else .ok ({ opening := cur.since opening, negated, start, items }, cur)

/-- Reads a character or an escape. -/
def readSetAtom (cur : Cursor) : Except Fault (Atom × Cursor) :=
  match cur.rest with
  | '\\' :: _ => readEscape cur
  | c :: _ => .ok (.literal ⟨cur.charSpan, c, false⟩, cur.next)
  | [] => .error ⟨.classUnclosed, cur.here, none⟩

/-- An atom as a set; an anchor is none. -/
def Atom.toSet : Atom → Except Fault SetForm
  | .literal l => .ok (.literal l)
  | .short span negated s => .ok (.short span negated s)
  | .property span negated q => .ok (.property span negated q)
  | .anchor span _ => .error ⟨.classEscapeInvalid, span, none⟩

/-- An atom as an end of a range. -/
def Atom.toBound : Atom → Except Fault Literal
  | .literal l => .ok l
  | a => .error ⟨.classRangeLiteral, a.span, none⟩

/-- Reads an item or a range.  A hyphen before a closing bracket or another hyphen makes no
range. -/
def readSetItem (o : OpenSet) (cur : Cursor) : Except Fault (SetForm × Cursor) := do
  let (first, after) ← readSetAtom cur
  let after := after.settle
  if after.rest.isEmpty then .error o.unclosed
  else if after.rest.head? ≠ some '-' ∨ after.peekPart = some ']' ∨ after.peekPart = some '-' then
    .ok (← first.toSet, after)
  else
    let second := after.advance
    if second.rest.isEmpty then .error o.unclosed
    else
      let (last, stop) ← readSetAtom second
      let low ← first.toBound
      let high ← last.toBound
      let span := first.span.through last.span
      if low.char ≤ high.char then .ok (.range span low high, stop)
      else .error ⟨.classRangeInvalid, span, none⟩

/-- The brackets that are open, from the inside out, or the set that they have come to. -/
inductive SetProgress where
  | reading (o : OpenSet) (outer : List OpenSet)
  | done (span : Span) (negated : Bool) (s : SetForm)

/-- Reads the next piece of a set. -/
def readSetPiece (o : OpenSet) (outer : List OpenSet) (cur : Cursor) :
    Except Fault (SetProgress × Cursor) :=
  let operator (op : SetOperation) : Except Fault (SetProgress × Cursor) :=
    let after := cur.skip 2
    .ok (.reading (o.operate op after.place) outer, after)
  match cur.rest with
  | [] => .error o.unclosed
  | '[' :: _ =>
    match readNamedSet? cur with
    | some (s, after) => .ok (.reading (o.add s) outer, after)
    | none => (readOpening cur).map fun r => (.reading r.1 (o :: outer), r.2)
  | ']' :: _ =>
    let after := cur.next
    let span := after.since o.opening.start
    match outer with
    | [] => .ok (.done span o.negated o.settled, after)
    | up :: more => .ok (.reading (up.add (.bracketed span o.negated o.settled)) more, after)
  | '&' :: '&' :: _ => operator .intersection
  | '-' :: '-' :: _ => operator .difference
  | '~' :: '~' :: _ => operator .symmetricDifference
  | _ => (readSetItem o cur).map fun r => (.reading (o.add r.1) outer, r.2)

/-- Reads a set in brackets; the cursor stands at the opening one. -/
def readSet (cur : Cursor) : Except Fault (Form × Cursor) := do
  let step (s : SetProgress) (cur : Cursor) : Except Fault (Option SetProgress × Cursor) :=
    match s with
    | .done .. => .ok (none, cur)
    | .reading o outer => (readSetPiece o outer cur.settle).map fun r => (some r.1, r.2)
  let (o, cur) ← readOpening cur
  match ← iterate (·.rest.length) step (.reading o []) cur with
  | (.done span negated s, cur) => .ok (.bracketed span negated s, cur)
  | (.reading o _, _) => .error o.unclosed

end BenchRoster.Pattern
