/-
# Reading patterns

Reads the form of a pattern from left to right.  Groups that are open wait on a stack, each with
what was read of it; a text that is no pattern is refused with the first rule that it breaks.
-/
import BenchRoster.Decimal.Power
import BenchRoster.Pattern.Bracket
import BenchRoster.Text.Letter

namespace BenchRoster.Pattern

/-! ## Counts -/

/-- A count as it is read: a number, no digits at all, or a number that is too large. -/
def readCount (cur : Cursor) : Except Fault Nat × Cursor :=
  let start := cur.dropBlanks
  let (digits, stop) := start.takeWhile Char.isDigit
  let after := (stop.takeWhile Text.isBlank).2
  let count : Except Fault Nat :=
    match Text.number? 10 digits with
    | none => .error ⟨.repetitionCountEmpty, stop.since start.place, none⟩
    | some n =>
      if n < twoTo 32 then .ok n else .error ⟨.decimalInvalid, stop.since start.place, none⟩
  (count, after)

/-- Reads the bounds between braces; the cursor stands at the opening one.  A count that is missing
or too large is told only after a comma or brace has been found behind it. -/
def readBounds (cur : Cursor) : Except Fault ((Nat × Option Nat) × Cursor) := do
  let unclosed (stop : Cursor) : Fault := ⟨.repetitionCountUnclosed, stop.since cur.place, none⟩
  let first := cur.advance
  if first.rest.isEmpty then .error (unclosed first)
  let (least, stop) := readCount first
  if stop.rest.isEmpty then .error (unclosed stop)
  let (bounds, stop) ← (
    if stop.rest.head? = some ',' then
      let second := stop.advance
      if second.rest.isEmpty then .error (unclosed second)
      else if second.rest.head? = some '\x7d' then least.map fun least => ((least, none), second)
      else do
        let least ← least
        let (most, stop) := readCount second
        .ok ((least, some (← most)), stop)
    else least.map fun n => ((n, some n), stop) :
    Except Fault ((Nat × Option Nat) × Cursor))
  if stop.rest.head? ≠ some '\x7d' then .error (unclosed stop)
  let after := stop.advance
  let after := if after.rest.head? = some '?' then after.next else after
  if bounds.2.any (· < bounds.1) then
    .error ⟨.repetitionCountInvalid, after.since cur.place, none⟩
  .ok (bounds, after)

/-! ## Groups -/

def flag? (c : Char) : Option Flag :=
  match c with
  | 'i' => some .insensitive
  | 'm' => some .multiLine
  | 's' => some .dotAll
  | 'U' => some .swapGreed
  | 'u' => some .unicode
  | 'R' => some .carriageReturns
  | 'x' => some .loose
  | _ => none

/-- What was read of some flags: the flags with their places, in order, the place of the hyphen that
turns off those after it, and whether the hyphen came last. -/
structure FlagProgress where
  flags : List (Flag × Bool × Span) := []
  negation : Option Span := none
  dangling : Bool := false

/-- Adds the next flag, or the hyphen; each may come once. -/
def FlagProgress.add (p : FlagProgress) (c : Char) (span : Span) : Except Fault FlagProgress :=
  if c = '-' then
    match p.negation with
    | some earlier => .error ⟨.flagRepeatedNegation, span, some earlier⟩
    | none => .ok { p with negation := some span, dangling := true }
  else
    match flag? c with
    | none => .error ⟨.flagUnrecognized, span, none⟩
    | some f =>
      match p.flags.find? (·.1 = f) with
      | some (_, _, earlier) => .error ⟨.flagDuplicate, span, some earlier⟩
      | none =>
        .ok { p with flags := p.flags ++ [(f, p.negation.isNone, span)], dangling := false }

/-- Reads flags up to a colon or a closing bracket. -/
def readFlags (cur : Cursor) : Except Fault (FlagProgress × Cursor) := do
  let step (p : FlagProgress) (cur : Cursor) : Except Fault (Option FlagProgress × Cursor) :=
    match cur.rest with
    | [] => .error ⟨.flagUnexpectedEnd, cur.here, none⟩
    | c :: _ =>
      if c = ':' ∨ c = ')' then .ok (none, cur)
      else do
        let p ← p.add c cur.charSpan
        if cur.next.rest.isEmpty then .error ⟨.flagUnexpectedEnd, cur.next.here, none⟩
        else .ok (some p, cur.next)
  let (p, cur) ← iterate (·.rest.length) step {} cur
  match p.dangling, p.negation with
  | true, some span => .error ⟨.flagDanglingNegation, span, none⟩
  | _, _ => .ok (p, cur)

/-- A character that the name of a group can start with. -/
def startsName (c : Char) : Bool := c == '_' || Text.isLetter c

/-- A character that the name of a group can go on with. -/
def continuesName (c : Char) : Bool :=
  c == '_' || c == '.' || c == '[' || c == ']' || Text.isLetter c || Text.isNumber c

/-- The names of the groups so far, with their places. -/
abbrev GroupNames := List (String × Span)

/-- Reads the name of a group up to the closing angle bracket. -/
def readGroupName (names : GroupNames) (cur : Cursor) :
    Except Fault (GroupNames × Cursor) :=
  let isPart (start : Bool) (c : Char) : Bool := if start then startsName c else continuesName c
  let name := cur.rest.takeWhile (· != '>')
  let length := ((name.zipIdx).takeWhile fun (c, i) => isPart (i == 0) c).length
  let stop := cur.skip length
  match stop.rest with
  | [] => .error ⟨.groupNameUnexpectedEnd, stop.here, none⟩
  | '>' :: _ =>
    let span := stop.since cur.place
    let name := String.ofList name
    if name.isEmpty then .error ⟨.groupNameEmpty, span, none⟩
    else
      match names.lookup name with
      | some earlier => .error ⟨.groupNameDuplicate, span, some earlier⟩
      | none => .ok (names ++ [(name, span)], stop.next)
  | _ => .error ⟨.groupNameInvalid, stop.charSpan, none⟩

/-- The head of a group: a change of flags for what follows, or the kind of the group. -/
inductive GroupHead where
  | change (changes : FlagChanges)
  | group (kind : GroupKind)

/-- How many characters introduce a part that depends on what is around it. -/
def lookAround? : List Char → Option Nat
  | '?' :: '=' :: _ => some 2
  | '?' :: '!' :: _ => some 2
  | '?' :: '<' :: '=' :: _ => some 3
  | '?' :: '<' :: '!' :: _ => some 3
  | _ => none

/-- How many characters introduce the name of a group. -/
def namePrefix? : List Char → Option Nat
  | '?' :: 'P' :: '<' :: _ => some 3
  | '?' :: '<' :: _ => some 2
  | _ => none

/-- Reads the opening of a group; the cursor stands at the bracket. -/
def readGroupHead (names : GroupNames) (cur : Cursor) :
    Except Fault (GroupHead × GroupNames × Cursor) :=
  let inner := cur.advance
  match lookAround? inner.rest, namePrefix? inner.rest with
  | some n, _ => .error ⟨.unsupportedLookAround, (inner.skip n).since cur.place, none⟩
  | _, some n => do
    let (names, after) ← readGroupName names (inner.skip n)
    .ok (.group .captured, names, after)
  | none, none =>
    if inner.rest.head? = some '?' then
      if inner.next.rest.isEmpty then .error ⟨.groupUnclosed, cur.charSpan, none⟩
      else do
        let (p, stop) ← readFlags inner.next
        let changes := p.flags.map fun f => (f.1, f.2.1)
        if stop.rest.head? = some ')' then
          if changes.isEmpty ∧ p.negation.isNone then .error ⟨.repetitionMissing, inner.here, none⟩
          else .ok (.change changes, names, stop.next)
        else .ok (.group (.plain changes), names, stop.next)
    else .ok (.group .captured, names, inner)

/-! ## Sequences and alternatives -/

/-- A group that is being read: its bracket and kind, whether blanks counted outside of it, and what
was read of it; `before` and `items` are kept in reverse. -/
structure OpenGroup where
  bracket : Option (Span × GroupKind) := none
  looseOutside : Bool := false
  /-- Where the first alternative starts. -/
  start : Place := {}
  before : List Form := []
  /-- Where the current alternative starts. -/
  current : Place := {}
  items : List Form := []

namespace OpenGroup

def add (g : OpenGroup) (p : Form) : OpenGroup := { g with items := p :: g.items }

/-- The current alternative up to a place. -/
def sequence (g : OpenGroup) (stop : Place) : Form :=
  match g.items with
  | [] => .empty ⟨g.current, stop⟩
  | [p] => p
  | ps => .sequence ⟨g.current, stop⟩ ps.reverse

/-- Starts the next alternative; the cursor stands at the bar. -/
def alternate (g : OpenGroup) (cur : Cursor) : OpenGroup :=
  { g with before := g.sequence cur.place :: g.before, current := cur.next.place, items := [] }

/-- All alternatives up to a place. -/
def form (g : OpenGroup) (stop : Place) : Form :=
  match g.before with
  | [] => g.sequence stop
  | ps => .choice ⟨g.start, stop⟩ (g.sequence stop :: ps).reverse

end OpenGroup

/-- What a pattern has come to: the innermost group, those around it, and the names so far. -/
structure Progress where
  inner : OpenGroup := {}
  outer : List OpenGroup := []
  names : GroupNames := []

/-- The last part, if it can be repeated, and the group without it. -/
def OpenGroup.repeatable? (g : OpenGroup) : Option (Form × OpenGroup) :=
  match g.items with
  | [] => none
  | .empty _ :: _ => none
  | .flags _ _ :: _ => none
  | p :: ps => some (p, { g with items := ps })

/-- Repeats the last part; the cursor stands at the operator. -/
def readRepetition (g : OpenGroup) (c : Char) (cur : Cursor) :
    Except Fault (OpenGroup × Cursor) :=
  match g.repeatable? with
  | none => .error ⟨.repetitionMissing, cur.here, none⟩
  | some (p, g) => do
    let ((least, most), after) ← (
      if c = '\x7b' then readBounds cur
      else
        let after := cur.next
        let after := if after.rest.head? = some '?' then after.next else after
        let bounds : Nat × Option Nat :=
          if c = '*' then (0, none) else if c = '+' then (1, none) else (0, some 1)
        .ok (bounds, after) :
      Except Fault ((Nat × Option Nat) × Cursor))
    .ok (g.add (.repetition (after.since p.span.start) least most p), after)

/-- Reads a part that is no operator. -/
def readPart (c : Char) (cur : Cursor) : Except Fault (Form × Cursor) :=
  match c with
  | '[' => readSet cur
  | '\\' => (readEscape cur).map fun r => (.atom r.1, r.2)
  | '.' => .ok (.dot cur.charSpan, cur.next)
  | '^' => .ok (.atom (.anchor cur.charSpan .lineStart), cur.next)
  | '$' => .ok (.atom (.anchor cur.charSpan .lineEnd), cur.next)
  | c => .ok (.atom (.literal ⟨cur.charSpan, c, false⟩), cur.next)

/-- Opens a group, or changes the flags; the cursor stands at the bracket. -/
def openGroup (p : Progress) (cur : Cursor) : Except Fault (Progress × Cursor) := do
  let (head, names, after) ← readGroupHead p.names cur
  let loose (changes : FlagChanges) : Bool := (changes.lookup .loose).getD after.loose
  match head with
  | .change changes =>
    let p := { p with inner := p.inner.add (.flags (after.since cur.place) changes) }
    .ok (p, { after with loose := loose changes })
  | .group kind =>
    let changes :=
      match kind with
      | .plain changes => changes
      | .captured => []
    let g : OpenGroup :=
      { bracket := some (cur.charSpan, kind), looseOutside := cur.loose,
        start := after.place, current := after.place }
    .ok (⟨g, p.inner :: p.outer, names⟩, { after with loose := loose changes })

/-- Closes a group; the cursor stands at the bracket. -/
def closeGroup (p : Progress) (cur : Cursor) : Except Fault (Progress × Cursor) :=
  match p.inner.bracket, p.outer with
  | some (bracket, kind), up :: outer =>
    let after := cur.next
    let group := Form.group (after.since bracket.start) kind (p.inner.form cur.place)
    .ok (⟨up.add group, outer, p.names⟩, { after with loose := p.inner.looseOutside })
  | _, _ => .error ⟨.groupUnopened, cur.charSpan, none⟩

/-- Reads the next piece of a pattern; at the end of the text there is none. -/
def readPiece (p : Progress) (cur : Cursor) : Except Fault (Option Progress × Cursor) :=
  let cur := cur.settle
  let going (r : Progress × Cursor) : Option Progress × Cursor := (some r.1, r.2)
  match cur.rest with
  | [] => .ok (none, cur)
  | '(' :: _ => (openGroup p cur).map going
  | ')' :: _ => (closeGroup p cur).map going
  | '|' :: _ => .ok (some { p with inner := p.inner.alternate cur }, cur.next)
  | c :: _ => do
    let (inner, after) ← (
      if c = '?' ∨ c = '*' ∨ c = '+' ∨ c = '\x7b' then readRepetition p.inner c cur
      else (readPart c cur).map fun r => (p.inner.add r.1, r.2) :
      Except Fault (OpenGroup × Cursor))
    .ok (some { p with inner }, after)

/-- The form of a written pattern, or the first fault of it. -/
def Form.ofText (text : String) : Except Fault Form := do
  let start : Cursor := { rest := text.toList }
  let (p, stop) ← iterate (·.rest.length) readPiece {} start
  match p.inner.bracket with
  | some (bracket, _) => .error ⟨.groupUnclosed, bracket, none⟩
  | none =>
    let form := p.inner.form stop.place
    form.checkDepth 0
    .ok form

end BenchRoster.Pattern
