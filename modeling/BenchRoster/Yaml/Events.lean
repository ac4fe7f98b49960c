/-
# From tokens to events

A pushdown machine reads tokens and answers one event at a time.  Its state says what may come next;
the stack holds what to go on with after the value at hand.  When it meets a fault, the events
before it are what is left of the document.
-/
import BenchRoster.Yaml.Event
import BenchRoster.Yaml.Tokens

namespace BenchRoster.Yaml

/-- What may come next. -/
inductive Expect where
  /-- A document, perhaps without the mark of its start. -/
  | firstDocument
  /-- A document with the mark of its start, or the end of the text. -/
  | nextDocument
  | documentContent
  | documentEnd
  | blockNode
  | blockItem
  | firstBlockItem
  | indentlessItem
  | blockKey
  | firstBlockKey
  | blockValue
  | flowItem
  | firstFlowItem
  | pairKey
  | pairValue
  | pairEnd
  | flowKey
  | firstFlowKey
  | flowValue
  /-- The value of a flow mapping's entry that consists of a key only. -/
  | flowNoValue
  | nothing
deriving DecidableEq, Repr

/-- The machine between two events. -/
structure Pushdown where
  tokens : List Token
  /-- What is wrong after the last token. -/
  trouble : Option Fault
  expect : Expect
  /-- What to go on with after the values at hand, innermost first. -/
  after : List Expect
  /-- Where the open collections begin, innermost first. -/
  opened : List Mark
  /-- Shorthands for tags with what they stand for. -/
  shorthands : List (String × TagText)

namespace Pushdown

/-- The shorthands of every document. -/
def commonShorthands : List (String × TagText) :=
  [("!", Text.utf8 "!"), ("!!", Text.utf8 "tag:yaml.org,2002:")]

/-- The next token. -/
def peek (m : Pushdown) : Except Fault Token :=
  match m.tokens, m.trouble with
  | t :: _, _ => .ok t
  | [], some f => .error f
  | [], none => .error { problem := .nodeExpected, mark := .start }

def next (m : Pushdown) : Pushdown := { m with tokens := m.tokens.tail }

/-- Goes on after the value at hand. -/
def pop (m : Pushdown) : Pushdown :=
  match m.after with
  | [] => { m with expect := .nothing }
  | e :: es => { m with expect := e, after := es }

/-- Remembers what to go on with after the next value. -/
def push (m : Pushdown) (e : Expect) : Pushdown := { m with after := e :: m.after }

def goto (m : Pushdown) (e : Expect) : Pushdown := { m with expect := e }

/-- Remembers where a collection begins. -/
def openAt (m : Pushdown) (mark : Mark) : Pushdown := { m with opened := mark :: m.opened }

/-- Where the innermost collection begins. -/
def openMark (m : Pushdown) : Mark := m.opened.headD .start

/-- Ends the innermost collection. -/
def close (m : Pushdown) : Pushdown := { m.pop with opened := m.opened.tail }

/-- One event and the machine after it. -/
abbrev Answer := Except Fault (MarkedEvent × Pushdown)

/-- A value that is left out. -/
def emptyScalar : Event := .scalar none ⟨"", .plain, none⟩

def emit (m : Pushdown) (e : Event) (mark : Mark) : Answer := .ok ((e, mark), m)

/-- Answers an empty scalar and goes on as given. -/
def emitEmpty (m : Pushdown) (mark : Mark) (e : Expect) : Answer :=
  (m.goto e).emit emptyScalar mark

/-! ## Documents -/

/-- Reads directives. -/
def directives (m : Pushdown) : List Token → Bool → List (String × TagText) →
    Except Fault (Pushdown × List (String × TagText))
  | [], _, shorthands =>
    match m.trouble with
    | some f => .error f
    | none => .ok ({ m with tokens := [] }, shorthands)
  | t :: ts, versionSeen, shorthands =>
    match t.lexeme with
    | .version major minor =>
      if versionSeen then bareFault .duplicateVersionDirective t.start
      else if major = 1 ∧ (minor = 1 ∨ minor = 2) then directives m ts true shorthands
      else bareFault .incompatibleVersion t.start
    | .tagShorthand handle uri =>
      if shorthands.any (·.1 == handle) then bareFault .duplicateTagDirective t.start
      else directives m ts versionSeen (shorthands ++ [(handle, uri)])
    | _ => .ok ({ m with tokens := t :: ts }, shorthands)

/-- The start of a document, or the end of the text. -/
def documentStart (m : Pushdown) (mayBeBare : Bool) :
    Except Fault (Option MarkedEvent × Pushdown) := do
  -- marks of an end may be repeated before a further document
  let m := if mayBeBare then m
    else { m with tokens := m.tokens.dropWhile (·.lexeme == .documentEnd) }
  let t ← m.peek
  let marked := match t.lexeme with
    | .version _ _ | .tagShorthand _ _ | .documentStart | .streamEnd => true
    | _ => false
  if mayBeBare && !marked then
    .ok (some (.documentStart, t.start),
      { m.push .documentEnd with expect := .blockNode, shorthands := commonShorthands })
  else if t.lexeme = .streamEnd then .ok (none, m.next.goto .nothing)
  else
    let (m, shorthands) ← m.directives m.tokens false []
    let added := commonShorthands.filter fun s => !shorthands.any (·.1 == s.1)
    let t' ← m.peek
    if t'.lexeme = .documentStart then
      .ok (some (.documentStart, t.start),
        { m.next.push .documentEnd with
          expect := .documentContent, shorthands := shorthands ++ added })
    else bareFault .documentStartExpected t'.start

/-- The end of a document, perhaps with its mark. -/
def documentEnd (m : Pushdown) : Answer := do
  let t ← m.peek
  let m := if t.lexeme = .documentEnd then m.next else m
  (m.goto .nextDocument).emit .documentEnd t.start

/-! ## Values -/

/-- Reads an anchor and a tag in either order; answers too where they begin and the tag's parts. -/
def properties (m : Pushdown) :
    Except Fault (Option String × Option (String × TagText × Mark) × Mark × Pushdown) := do
  let t ← m.peek
  match t.lexeme with
  | .anchor name =>
    let m := m.next
    let t' ← m.peek
    match t'.lexeme with
    | .tag h u => .ok (some name, some (h, u, t'.start), t.start, m.next)
    | _ => .ok (some name, none, t.start, m)
  | .tag h u =>
    let m := m.next
    let t' ← m.peek
    match t'.lexeme with
    | .anchor name => .ok (some name, some (h, u, t.start), t.start, m.next)
    | _ => .ok (none, some (h, u, t.start), t.start, m)
  | _ => .ok (none, none, t.start, m)

/-- The full text of a tag; what a shorthand stands for ends before its first NUL, as the rest
does. -/
def fullTag (m : Pushdown) (since : Mark) : Option (String × TagText × Mark) →
    Except Fault (Option TagText)
  | none => .ok none
  | some (h, u, mark) =>
    if h = "" then .ok (some (Tag.upToNul u))
    else
      match m.shorthands.lookup h with
      | some start => .ok (some (Tag.upToNul start ++ Tag.upToNul u))
      | none => fault .node since .undefinedHandle mark

/-- Reads the beginning of a value.  In a block, `inBlock` holds and block collections may begin;
where the key or value of a block mapping stands, a sequence may begin without indentation. -/
def node (m : Pushdown) (inBlock mayBeIndentless : Bool) : Answer := do
  let first ← m.peek
  match first.lexeme with
  | .reference name => (m.pop.next).emit (.reference name) first.start
  | _ =>
    let (anchor, parts, since, m) ← m.properties
    let tag ← m.fullTag since parts
    let t ← m.peek
    let p : Properties := ⟨anchor, tag⟩
    match t.lexeme with
    | .blockEntry =>
      if mayBeIndentless then (m.goto .indentlessItem).emit (.sequenceStart p) since
      else leftOut m p since t
    | .scalar text style =>
      (m.pop.next).emit (.scalar anchor ⟨text, style, tag⟩) since
    | .flowSequenceStart => (m.goto .firstFlowItem).emit (.sequenceStart p) since
    | .flowMappingStart => (m.goto .firstFlowKey).emit (.mappingStart p) since
    | .blockSequenceStart =>
      if inBlock then (m.goto .firstBlockItem).emit (.sequenceStart p) since
      else leftOut m p since t
    | .blockMappingStart =>
      if inBlock then (m.goto .firstBlockKey).emit (.mappingStart p) since
      else leftOut m p since t
    | _ => leftOut m p since t
where
  /-- A value may be left out after an anchor or a tag. -/
  leftOut (m : Pushdown) (p : Properties) (since : Mark) (t : Token) : Answer :=
    if p.anchor.isSome ∨ p.tag.isSome then
      m.pop.emit (.scalar p.anchor ⟨"", .plain, p.tag⟩) since
    else fault (if inBlock then .blockNode else .flowNode) since .nodeExpected t.start

/-! ## Block collections -/

/-- Takes the token that opens a collection. -/
def enter (m : Pushdown) : Except Fault Pushdown := do
  let t ← m.peek
  .ok (m.openAt t.start).next

/-- An item of a block sequence, or its end. -/
def blockItem (m : Pushdown) : Answer := do
  let t ← m.peek
  match t.lexeme with
  | .blockEntry =>
    let m := m.next
    let t' ← m.peek
    match t'.lexeme with
    | .blockEntry | .blockEnd => m.emitEmpty t.stop .blockItem
    | _ => (m.push .blockItem).node true false
  | .blockEnd => m.close.next.emit .sequenceEnd t.start
  | _ => fault .blockCollection m.openMark .dashExpected t.start

/-- An item of a sequence that is not indented, or its end. -/
def indentlessItem (m : Pushdown) : Answer := do
  let t ← m.peek
  match t.lexeme with
  | .blockEntry =>
    let m := m.next
    let t' ← m.peek
    match t'.lexeme with
    | .blockEntry | .key | .value | .blockEnd => m.emitEmpty t.stop .indentlessItem
    | _ => (m.push .indentlessItem).node true false
  | _ => m.pop.emit .sequenceEnd t.start

/-- The part of a block mapping's entry after its mark: a value, or nothing. -/
def blockPart (m : Pushdown) (mark : Mark) (e : Expect) : Answer := do
  let t ← m.peek
  match t.lexeme with
  | .key | .value | .blockEnd => m.emitEmpty mark e
  | _ => (m.push e).node true true

/-- A key of a block mapping, or its end. -/
def blockKey (m : Pushdown) : Answer := do
  let t ← m.peek
  match t.lexeme with
  | .key => m.next.blockPart t.stop .blockValue
  | .blockEnd => m.close.next.emit .mappingEnd t.start
  | _ => fault .blockMapping m.openMark .keyExpected t.start

/-- The value of a block mapping's entry. -/
def blockValue (m : Pushdown) : Answer := do
  let t ← m.peek
  match t.lexeme with
  | .value => m.next.blockPart t.stop .blockKey
  | _ => m.emitEmpty t.start .blockKey

/-! ## Flow collections -/

/-- Takes the comma before an entry that is not the first. -/
def separator (m : Pushdown) (first : Bool) (context : Context) (problem : Problem) :
    Except Fault Pushdown := do
  let t ← m.peek
  if first then .ok m
  else if t.lexeme = .flowEntry then .ok m.next
  else fault context m.openMark problem t.start

/-- An item of a flow sequence, or its end. -/
def flowItem (m : Pushdown) (first : Bool) : Answer := do
  let t ← m.peek
  if t.lexeme = .flowSequenceEnd then m.close.next.emit .sequenceEnd t.start
  else
    let m ← m.separator first .flowSequence .flowSequenceEnd
    let t ← m.peek
    match t.lexeme with
    | .key => (m.next.goto .pairKey).emit (.mappingStart ⟨none, none⟩) t.start
    | .flowSequenceEnd => m.close.next.emit .sequenceEnd t.start
    | _ => (m.push .flowItem).node false false

/-- The key of a single pair in a flow sequence. -/
def pairKey (m : Pushdown) : Answer := do
  let t ← m.peek
  match t.lexeme with
  -- the token after an empty key is taken, whichever it is
  | .value | .flowEntry | .flowSequenceEnd => m.next.emitEmpty t.stop .pairValue
  | _ => (m.push .pairValue).node false false

/-- The value of a single pair in a flow sequence. -/
def pairValue (m : Pushdown) : Answer := do
  let t ← m.peek
  match t.lexeme with
  | .value =>
    let m := m.next
    let t ← m.peek
    match t.lexeme with
    | .flowEntry | .flowSequenceEnd => m.emitEmpty t.start .pairEnd
    | _ => (m.push .pairEnd).node false false
  | _ => m.emitEmpty t.start .pairEnd

/-- The end of a single pair in a flow sequence. -/
def pairEnd (m : Pushdown) : Answer := do
  let t ← m.peek
  (m.goto .flowItem).emit .mappingEnd t.start

/-- A key of a flow mapping, or its end. -/
def flowKey (m : Pushdown) (first : Bool) : Answer := do
  let t ← m.peek
  if t.lexeme = .flowMappingEnd then m.close.next.emit .mappingEnd t.start
  else
    let m ← m.separator first .flowMapping .flowMappingEnd
    let t ← m.peek
    match t.lexeme with
    | .key =>
      let m := m.next
      let t ← m.peek
      match t.lexeme with
      | .value | .flowEntry | .flowMappingEnd => m.emitEmpty t.start .flowValue
      | _ => (m.push .flowValue).node false false
    | .flowMappingEnd => m.close.next.emit .mappingEnd t.start
    | _ => (m.push .flowNoValue).node false false

/-- The value of a flow mapping's entry. -/
def flowValue (m : Pushdown) : Answer := do
  let t ← m.peek
  match t.lexeme with
  | .value =>
    let m := m.next
    let t ← m.peek
    match t.lexeme with
    | .flowEntry | .flowMappingEnd => m.emitEmpty t.start .flowKey
    | _ => (m.push .flowKey).node false false
  | _ => m.emitEmpty t.start .flowKey

/-- The value of an entry that consists of a key only. -/
def flowNoValue (m : Pushdown) : Answer := do
  let t ← m.peek
  m.emitEmpty t.start .flowKey

/-- One event, or nothing at the end of the text. -/
def step (m : Pushdown) : Except Fault (Option MarkedEvent × Pushdown) :=
  let some? (a : Answer) : Except Fault (Option MarkedEvent × Pushdown) :=
    a.map fun x => (some x.1, x.2)
  match m.expect with
  | .firstDocument => m.documentStart true
  | .nextDocument => m.documentStart false
  | .nothing => .ok (none, m)
  | .documentContent => do
    let t ← m.peek
    match t.lexeme with
    | .version _ _ | .tagShorthand _ _ | .documentStart | .documentEnd | .streamEnd =>
      some? (m.pop.emit emptyScalar t.start)
    | _ => some? (m.node true false)
  | .documentEnd => some? m.documentEnd
  | .blockNode => some? (m.node true false)
  | .firstBlockItem => do some? (← m.enter).blockItem
  | .blockItem => some? m.blockItem
  | .indentlessItem => some? m.indentlessItem
  | .firstBlockKey => do some? (← m.enter).blockKey
  | .blockKey => some? m.blockKey
  | .blockValue => some? m.blockValue
  | .firstFlowItem => do some? ((← m.enter).flowItem true)
  | .flowItem => some? (m.flowItem false)
  | .pairKey => some? m.pairKey
  | .pairValue => some? m.pairValue
  | .pairEnd => some? m.pairEnd
  | .firstFlowKey => do some? ((← m.enter).flowKey true)
  | .flowKey => some? (m.flowKey false)
  | .flowValue => some? m.flowValue
  | .flowNoValue => some? m.flowNoValue

/-- Runs the machine.  Every token gives rise to a bounded number of events, so the given number of
steps is never used up. -/
def run : Nat → Pushdown → List MarkedEvent × Option Fault
  | 0, _ => ([], none)
  | steps + 1, m =>
    match m.step with
    | .error f => ([], some f)
    | .ok (none, _) => ([], none)
    | .ok (some e, m) =>
      let (es, f) := run steps m
      (e :: es, f)

end Pushdown

/-- The events of a document's text up to the first fault. -/
def events (s : String) : List MarkedEvent × Option Fault :=
  match tokens s with
  | ([], f) => ([], f)
  | (_ :: ts, f) =>
    Pushdown.run (6 * ts.length + 10)
      { tokens := ts, trouble := f, expect := .firstDocument, after := [], opened := [],
        shorthands := [] }

end BenchRoster.Yaml
