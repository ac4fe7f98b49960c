/-
# Reading scripts for editing lines

Scripts are read character by character.  What is wrong with one is named with its place.
-/
import BenchRoster.Tool.Edit.Script

namespace BenchRoster.Tool.Edit

/-- What is wrong with a script, and how much of which part of it has been read by then. -/
structure Fault where
  part : Nat := 1
  position : Nat
  message : String

structure Input where
  rest : List Char
  position : Nat := 0

abbrev Reader := EStateM Fault Input

def fail {α : Type} (message : String) : Reader α := fun s =>
  .error { position := s.position, message } s

def peek? : Reader (Option Char) := fun s => .ok s.rest.head? s

/-- Takes a character; at the end, the end counts as one. -/
def take? : Reader (Option Char) := fun s =>
  match s.rest with
  | c :: cs => .ok (some c) ⟨cs, s.position + 1⟩
  | [] => .ok none s

def takeWhile (p : Char → Bool) : Reader (List Char) := fun s =>
  let cs := s.rest.takeWhile p
  .ok cs ⟨s.rest.drop cs.length, s.position + cs.length⟩

def skipBlanks : Reader Unit := do discard (takeWhile fun c => c == ' ' || c == '\t')

def numberOf (ds : List Char) : Nat := ds.foldl (fun n d => n * 10 + (d.toNat - 48)) 0

/-- Reads up to a delimiter.  A backslash keeps the next character; before the delimiter itself it
is dropped.  In brackets of an expression a delimiter means nothing. -/
def delimited (delimiter : Char) (expression : Bool) : Nat → List Char →
    Reader (Option (List Char))
  | 0, _ => return none
  | n + 1, acc => do
    match ← take? with
    | none => return none
    | some c =>
      if c = delimiter then return some acc.reverse
      else if c = '\\' then
        match ← take? with
        | none => return none
        | some d =>
          if d = delimiter then delimited delimiter expression n (d :: acc)
          else if d = 'n' ∧ expression then delimited delimiter expression n ('\n' :: acc)
          else delimited delimiter expression n (d :: '\\' :: acc)
      else if c = '\n' ∧ expression then return none
      else delimited delimiter expression n (c :: acc)

/-- Reads flags behind the expression of an address. -/
def finderOf (extended : Bool) (cs : List Char) (foldCase : Bool) : Reader Finder := do
  if cs.isEmpty then return ⟨none, foldCase⟩
  match Expression.ofOctets extended cs with
  | .ok e => return ⟨some e, foldCase⟩
  | .error f => fail (f.message)

/-- Reads an address, if there is one. -/
def address? (extended : Bool) : Reader (Option Address) := do
  match ← peek? with
  | some '$' =>
    discard take?
    return some .last
  | some c =>
    if c.isDigit then
      let n := numberOf (← takeWhile Char.isDigit)
      skipBlanks
      if (← peek?) = some '~' then
        discard take?
        return some (.every n (numberOf (← takeWhile Char.isDigit)))
      else return some (.line n)
    else if c = '/' ∨ c = '\\' then
      discard take?
      let delimiter ←
        if c = '\\' then do pure ((← take?).getD '/') else pure '/'
      match ← delimited delimiter true ((← get).rest.length + 1) [] with
      | none => fail "unterminated address regex"
      | some cs =>
        let flags ← takeWhile (· == 'I')
        return some (.found (← finderOf extended cs (!flags.isEmpty)))
    else return none
  | none => return none

/-- Reads the end of a range. -/
def rangeEnd (extended : Bool) : Reader RangeEnd := do
  match ← peek? with
  | some '+' =>
    discard take?
    return .after (numberOf (← takeWhile Char.isDigit))
  | some '~' =>
    discard take?
    return .multiple (numberOf (← takeWhile Char.isDigit))
  | _ =>
    match ← address? extended with
    | some a => return .at a
    | none => fail "unexpected \x60,'"

/-- Reads the addresses before a command. -/
def selection (extended : Bool) : Reader Selection := do
  let first ← address? extended
  skipBlanks
  let stop ←
    if first.isSome ∧ (← peek?) = some ',' then do
      discard take?
      skipBlanks
      pure (some (← rangeEnd extended))
    else pure none
  skipBlanks
  if (← peek?) = some '!' then
    discard take?
    skipBlanks
    if (← peek?) = some '!' then
      discard take?
      fail "multiple \x60!'s"
    return { first, stop, negated := true }
  return { first, stop }

/-- Reads the pieces of a replacement. -/
def pieces : Nat → List Char → List Piece
  | 0, _ => []
  | _ + 1, [] => []
  | n + 1, '\\' :: c :: cs =>
    let piece : Piece :=
      if c.isDigit then .group (c.toNat - 48)
      else
        match c with
        | 'U' => .letters .upper
        | 'L' => .letters .lower
        | 'E' => .letters .asWritten
        | 'u' => .letter .upper
        | 'l' => .letter .lower
        | c => .text [(Expression.controlOf? c).getD c]
    piece :: pieces n cs
  | n + 1, '&' :: cs => .group 0 :: pieces n cs
  | n + 1, c :: cs => .text [c] :: pieces n cs

/-- Reads the name of a file, which goes on to the end of the line. -/
def fileName : Reader String := do
  skipBlanks
  let cs ← takeWhile (· != '\n')
  if cs.isEmpty then fail "missing filename in r/R/w/W commands"
  return String.ofList cs

/-- Reads the flags of a substitution. -/
def flags : Nat → Substitution → Bool → Reader Substitution
  | 0, s, _ => return s
  | n + 1, s, counted => do
    match ← peek? with
    | some 'g' =>
      discard take?
      if s.all then fail "multiple \x60g' options to \x60s' command"
      flags n { s with all := true } counted
    | some 'p' =>
      discard take?
      if s.print then fail "multiple \x60p' options to \x60s' command"
      flags n { s with print := true } counted
    | some c =>
      if c = 'w' then
        discard take?
        return { s with file := some (← fileName) }
      else if c = 'i' ∨ c = 'I' then
        discard take?
        flags n { s with finder := { s.finder with foldCase := true } } counted
      else if c.isDigit then
        let k := numberOf (← takeWhile Char.isDigit)
        if k = 0 then fail "number option to \x60s' command may not be zero"
        flags n { s with nth := k } true
      else if c = ';' ∨ c = '\n' ∨ c = '\x7d' ∨ c = '#' ∨ c = ' ' ∨ c = '\t' then return s
      else
        discard take?
        fail "unknown option to \x60s'"
    | none => return s

/-- Reads the text of a command that adds lines: behind a backslash and a line feed, or in the same
line; a line goes on behind a backslash. -/
def textLines : Nat → List Char → Reader (List Char)
  | 0, acc => return acc.reverse
  | n + 1, acc => do
    match ← take? with
    | none => return ('\n' :: acc).reverse
    | some '\n' => return ('\n' :: acc).reverse
    | some '\\' =>
      match ← take? with
      | none => return ('\n' :: acc).reverse
      | some c => textLines n (c :: acc)
    | some c => textLines n (c :: acc)

def addedText : Reader (List Char) := do
  skipBlanks
  match ← peek? with
  | none => fail "expected \\ after \x60a', \x60c' or \x60i'"
  | some '\\' =>
    discard take?
    skipBlanks
    if (← peek?) = some '\n' then discard take?
  | _ => pure ()
  textLines ((← get).rest.length + 1) []

/-- Nothing but the end of a command may follow. -/
def endOfCommand : Reader Unit := do
  skipBlanks
  match ← peek? with
  | none => return
  | some c =>
    if c = ';' ∨ c = '\n' then discard take?
    else if c = '\x7d' ∨ c = '#' then return
    else
      discard take?
      fail "extra characters after command"

/-- Pairs the characters of two texts. -/
def tableOf (a b : List Char) : Reader (List (Char × Char)) := do
  let plain (cs : List Char) : List Char :=
    (pieces (cs.length + 1) cs).flatMap fun
      | .text t => t
      | .group 0 => ['&']
      | _ => []
  let (a, b) := (plain a, plain b)
  if a.length ≠ b.length then fail "strings for \x60y' command are different lengths"
  return a.zip b

/-- Reads what a command does after its letter. -/
def action (extended : Bool) (c : Char) : Reader Action := do
  let simple (a : Action) : Reader Action := do
    endOfCommand
    return a
  let fuel := (← get).rest.length + 1
  match c with
  | 's' =>
    let broken : Reader Action := fail "unterminated \x60s' command"
    match ← take? with
    | none => broken
    | some delimiter =>
      match ← delimited delimiter true fuel [] with
      | none => broken
      | some e =>
        match ← delimited delimiter false fuel [] with
        | none => broken
        | some r =>
          let replacement := pieces (r.length + 1) r
          let start : Substitution := { finder := ⟨none, false⟩, replacement }
          let s ← flags fuel start false
          let finder ← finderOf extended e s.finder.foldCase
          let groups := (finder.expression.map Expression.groups).getD 9
          let named := s.replacement.filterMap fun
            | .group n => some n
            | _ => none
          if let some n := named.find? (groups < ·) then
            fail s!"invalid reference \\{n} on \x60s' command's RHS"
          simple (.substitute { s with finder })
  | 'y' =>
    let broken : Reader Action := fail "unterminated \x60y' command"
    match ← take? with
    | none => broken
    | some delimiter =>
      match ← delimited delimiter false fuel [] with
      | none => broken
      | some a =>
        match ← delimited delimiter false fuel [] with
        | none => broken
        | some b =>
          let table ← tableOf a b
          simple (.translate table)
  | 'd' => simple .delete
  | 'D' => simple .deleteFirst
  | 'p' => simple .print
  | 'P' => simple .printFirst
  | 'n' => simple .next
  | 'N' => simple .nextAppended
  | 'h' => simple (.hold false)
  | 'H' => simple (.hold true)
  | 'g' => simple (.recall false)
  | 'G' => simple (.recall true)
  | 'x' => simple .exchange
  | '=' => simple .number
  | 'l' => simple .list
  | 'z' => simple .clear
  | 'w' => return .store (← fileName)
  | 'r' => return .include (← fileName)
  | 'a' => return .append (← addedText)
  | 'i' => return .insert (← addedText)
  | 'c' => return .change (← addedText)
  | c =>
    if c = 'q' ∨ c = 'Q' then
      skipBlanks
      let status := numberOf (← takeWhile Char.isDigit)
      simple (.quit (status % 256) (c = 'Q'))
    else if c = 'b' ∨ c = 't' ∨ c = 'T' then
      skipBlanks
      let name ← takeWhile fun d => !(d == ';' || d == '\n' || d == '\x7d' || d == ' ')
      let a : Action := if c = 'b' then .jump name else .jumpIf (c = 't') name
      simple a
    else if c = ':' then
      skipBlanks
      let name ← takeWhile fun d => !(d == ';' || d == '\n')
      simple (.label ((name.reverse.dropWhile (· == ' ')).reverse))
    else fail s!"unknown command: \x60{String.ofList [c]}'"

/-- The commands that have been read, newest first, and the numbers of the blocks that are open. -/
structure Unfinished where
  done : List Command := []
  blocks : List Nat := []

/-- Reads commands. -/
def commands (extended : Bool) : Nat → Unfinished → Reader Unfinished
  | 0, u => return u
  | n + 1, u => do
    discard (takeWhile fun c => c == ' ' || c == '\t' || c == '\n' || c == ';')
    match ← peek? with
    | none => return u
    | some '#' =>
      discard (takeWhile (· != '\n'))
      commands extended n u
    | some _ =>
      let selection ← selection extended
      match ← take? with
      | none => fail "missing command"
      | some '\x7b' =>
        commands extended n ⟨⟨selection, .block 0⟩ :: u.done, u.done.length :: u.blocks⟩
      | some '\x7d' =>
        match u.blocks with
        | [] => fail "unexpected \x60\x7d'"
        | start :: blocks =>
          if selection.first.isSome then fail "\x7d doesn't want any addresses"
          endOfCommand
          let here := u.done.length
          let done := u.done.mapIdx fun i c =>
            if here - 1 - i = start then { c with action := .block here } else c
          commands extended n ⟨⟨selection, .blockEnd⟩ :: done, blocks⟩
      | some c =>
        let a ← action extended c
        commands extended n { u with done := ⟨selection, a⟩ :: u.done }

/-- Text that the last command adds ends in a backslash, so that the next part goes on with it. -/
def goesOn (part : String) : Bool :=
  (part.toList.reverse.takeWhile (· == '\\')).length % 2 == 1

/-- Puts parts together of which one goes on with the other, and numbers them. -/
def numbered : Nat → List String → List (Nat × String)
  | _, [] => []
  | n, [p] => [(n, p)]
  | n, p :: q :: ps =>
    if goesOn p then
      match numbered (n + 1) (q :: ps) with
      | (_, text) :: more => (n, p ++ "\n" ++ text) :: more
      | [] => [(n, p)]
    else (n, p) :: numbered (n + 1) (q :: ps)

/-- Reads the parts of a script. -/
def ofParts (extended : Bool) (parts : List String) : Except Fault (List Command) := do
  let u ← (numbered 1 parts).foldlM (fun u (n, part) =>
    match commands extended (part.length + 1) u { rest := part.toList } with
    | .ok u _ => .ok u
    | .error f _ => .error { f with part := n }) {}
  if u.blocks.isEmpty then return u.done.reverse
  else throw { position := 0, message := "unmatched \x60\x7b'" }

/-- The files that commands write to. -/
def filesOf (cs : List Command) : List String :=
  (cs.filterMap fun c =>
    match c.action with
    | .store file => some file
    | .substitute s => s.file
    | _ => none).filter (· != "/dev/stdout") |>.eraseDups

/-- The label that some command jumps to and that is nowhere. -/
def missingLabel? (cs : List Command) : Option (List Char) :=
  let labels := cs.filterMap fun c =>
    match c.action with
    | .label name => some name
    | _ => none
  (cs.filterMap fun c =>
    match c.action with
    | .jump name => some name
    | .jumpIf _ name => some name
    | _ => none).find? fun name => !name.isEmpty && !labels.contains name

end BenchRoster.Tool.Edit
