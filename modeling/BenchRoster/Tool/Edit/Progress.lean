/-
# The work on a line

The editor keeps a workspace, held text and what it has written.  Here are the lines that a command
works on, and what a substitution makes of a line.
-/
import BenchRoster.Tool.Edit.Script

namespace BenchRoster.Tool.Edit

/-- How far the editor has come. -/
structure Progress where
  /-- What was written, newest first. -/
  written : List (List Char) := []
  /-- The last line that was written lacks its line feed. -/
  unended : Bool := false
  lineNumber : Nat := 0
  /-- The lines that are still to come, each with whether it ends in a line feed. -/
  ahead : List (List Char × Bool)
  work : List Char := []
  workEnded : Bool := true
  held : List Char := []
  heldEnded : Bool := true
  /-- What is written after the line. -/
  queue : List (List Char) := []
  /-- What was written to files, newest first. -/
  stored : List (String × List Char) := []
  replaced : Bool := false
  lastFinder : Option Expression := none
  /-- For each command the line at which its range ends; `some none` if that is not known yet. -/
  ranges : List (Nat × Option Nat) := []

namespace Progress

/-- Writes text that ends in a line feed. -/
def write (s : Progress) (cs : List Char) : Progress :=
  { s with written := cs :: (if s.unended then ['\n'] :: s.written else s.written),
           unended := false }

/-- Writes a line; the last one of the input may lack its line feed. -/
def writeLine (s : Progress) (cs : List Char) (ended : Bool) : Progress :=
  { s.write (if ended then cs ++ ['\n'] else cs) with unended := !ended }

/-- Writes what was to come after the line. -/
def flush (s : Progress) : Progress :=
  { s.queue.foldl write s with queue := [] }

/-- Writes the line to a file, or to the output by the name of that. -/
def store (s : Progress) (file : String) : Progress :=
  if file = "/dev/stdout" then s.writeLine s.work s.workEnded
  else { s with stored := (file, s.work ++ if s.workEnded then ['\n'] else []) :: s.stored }

def isLast (s : Progress) : Bool := s.ahead.isEmpty

/-- Puts the next line into the workspace. -/
def advance? (s : Progress) : Option Progress :=
  match s.ahead with
  | [] => none
  | (line, ended) :: ahead =>
    some { s with work := line, workEnded := ended, ahead, lineNumber := s.lineNumber + 1 }

/-- The expression of a finder; one that is left out is the last one. -/
def expressionOf (s : Progress) (f : Finder) : Expression × Progress :=
  let e := (f.expression.or s.lastFinder).getD .empty
  (e, { s with lastFinder := some e })

def selects (s : Progress) : Address → Bool × Progress
  | .line n => (s.lineNumber == n, s)
  | .last => (s.isLast, s)
  | .every first step =>
    (if step = 0 then s.lineNumber == first
      else first ≤ s.lineNumber && (s.lineNumber - first) % step == 0, s)
  | .found f =>
    let (e, s) := s.expressionOf f
    ((e.find? f.foldCase s.work).isSome, s)

/-- Whether a command works on the line; a range that has begun goes on. -/
def isSelected (s : Progress) (index : Nat) (sel : Selection) : Bool × Progress :=
  let close (s : Progress) : Progress :=
    { s with ranges := s.ranges.filter (·.1 != index) }
  let (selected, s) : Bool × Progress :=
    match sel.first, sel.stop with
    | none, _ => (true, s)
    | some a, none => s.selects a
    | some a, some stop =>
      match s.ranges.lookup index with
      | some (some last) =>
        if last < s.lineNumber then
          -- a range that should have ended before does not go on
          let (begins, s) := (close s).selects a
          (begins, s)
        else (true, if s.lineNumber = last then close s else s)
      | some none =>
        match stop with
        | .at a =>
          let (ends, s) := s.selects a
          (true, if ends then close s else s)
        | _ => (true, s)
      | none =>
        let (begins, s) :=
          match a, stop with
          | .line 0, .at (.found _) => (s.lineNumber == 1, s)
          | a, _ => s.selects a
        if !begins then (false, s)
        else
          let upTo (last : Nat) : Progress :=
            if last ≤ s.lineNumber then s
            else { s with ranges := (index, some last) :: s.ranges }
          match stop with
          | .after n => (true, upTo (s.lineNumber + n))
          | .multiple n =>
            (true, if n = 0 then s else upTo ((s.lineNumber + n - 1) / n * n))
          | .at (.line n) => (true, upTo n)
          | .at b =>
            match a, b with
            | .line 0, .found _ =>
              let (ends, s) := s.selects b
              (true, if ends then s else { s with ranges := (index, none) :: s.ranges })
            | _, _ => (true, { s with ranges := (index, none) :: s.ranges })
  (selected != sel.negated, s)

end Progress

/-- The state of letters while a replacement is put together. -/
structure Casing where
  all : Letters := .asWritten
  next : Letters := .asWritten

def Letters.apply (l : Letters) (c : Char) : Char :=
  match l with
  | .upper => c.toUpper
  | .lower => c.toLower
  | .asWritten => c

/-- Changes letters; a change of the next one goes first. -/
def Casing.change (k : Casing) (cs : List Char) : List Char × Casing :=
  match cs with
  | [] => ([], k)
  | c :: cs =>
    let first := if k.next = .asWritten then k.all.apply c else k.next.apply c
    (first :: cs.map k.all.apply, { k with next := .asWritten })

/-- What takes the place of a match. -/
def fillIn (m : Expression.Match) : Casing → List Piece → List Char
  | _, [] => []
  | k, p :: ps =>
    match p with
    | .text cs =>
      let (cs, k) := k.change cs
      cs ++ fillIn m k ps
    | .group n =>
      let (cs, k) := k.change (if n = 0 then m.matched else (m.groups.lookup n).getD [])
      cs ++ fillIn m k ps
    | .letters l => fillIn m ⟨l, .asWritten⟩ ps
    | .letter l => fillIn m { k with next := l } ps

/-- Replaces matches in a line from the given one on.  An empty match right behind another one does
not count. -/
def replaceIn (s : Substitution) (e : Expression) :
    Nat → Nat → Bool → Option Char → List Char → List Char × Bool
  | 0, _, _, _, cs => (cs, false)
  | fuel + 1, count, behind, before, cs =>
    match Expression.findFrom s.finder.foldCase e before [] cs with
    | none => (cs, false)
    | some m =>
      let skipped := behind && m.skipped.isEmpty && m.matched.isEmpty
      let count := if skipped then count else count + 1
      let wanted := !skipped && (count == s.nth || (s.all && s.nth < count))
      let new := if wanted then fillIn m {} s.replacement else m.matched
      if wanted && !s.all then (m.skipped ++ new ++ m.rest, true)
      else
        match m.matched, m.rest with
        | [], [] => (m.skipped ++ new, wanted)
        | [], c :: rest =>
          let (later, r) := replaceIn s e fuel count false (some c) rest
          (m.skipped ++ new ++ c :: later, wanted || r)
        | _, rest =>
          let (later, r) := replaceIn s e fuel count true m.before rest
          (m.skipped ++ new ++ later, wanted || r)

/-- The line as it is listed: with escapes, in rows of 69 characters, and with a mark at its end. -/
def listed (cs : List Char) : List Char :=
  let shown (c : Char) : List Char :=
    if c = '\\' then ['\\', '\\'] else if Tool.isShown c then [c] else escapeOctet c
  let (row, done) := cs.foldl (fun (acc : List Char × List Char) c =>
    let e := shown c
    if 69 < acc.1.length + e.length then (e.reverse, '\n' :: '\\' :: (acc.1 ++ acc.2))
    else (e.reverse ++ acc.1, acc.2)) ([], [])
  (('\n' :: '$' :: (row ++ done)).reverse)

end BenchRoster.Tool.Edit
