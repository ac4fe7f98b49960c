/-
# Copying files one after the other

The files are copied as they are, or with numbered lines, marked ends of lines, visible tabs and
control characters, and repeated empty lines left out.
-/
import BenchRoster.Tool.Basic

namespace BenchRoster.Tool.Cat

def switches : List Switch :=
  [⟨some 'b', "number-nonblank", .nothing⟩, ⟨some 'n', "number", .nothing⟩,
   ⟨some 's', "squeeze-blank", .nothing⟩, ⟨some 'v', "show-nonprinting", .nothing⟩,
   ⟨some 'E', "show-ends", .nothing⟩, ⟨some 'T', "show-tabs", .nothing⟩,
   ⟨some 'A', "show-all", .nothing⟩, ⟨some 'e', "", .nothing⟩, ⟨some 't', "", .nothing⟩,
   ⟨some 'u', "", .nothing⟩, ⟨none, "help", .nothing⟩, ⟨none, "version", .nothing⟩]

/-- How the copy differs from the files. -/
structure Manner where
  number : Bool
  /-- Empty lines are not numbered. -/
  skipEmpty : Bool
  squeeze : Bool
  showEnds : Bool
  showTabs : Bool
  showControls : Bool

def Manner.ofGiven (g : Given) : Manner where
  number := g.has "n" || g.has "b"
  skipEmpty := g.has "b"
  squeeze := g.has "s"
  showEnds := g.has "E" || g.has "A" || g.has "e"
  showTabs := g.has "T" || g.has "A" || g.has "t"
  showControls := g.has "v" || g.has "A" || g.has "e" || g.has "t"

/-- The files are copied as they are. -/
def Manner.isPlain (m : Manner) : Bool :=
  !(m.number || m.squeeze || m.showEnds || m.showTabs || m.showControls)

/-- A byte below 128 with control characters made visible. -/
def visibleLow (b : UInt8) : Bytes :=
  if b < 32 then [94, b + 64] else if b = 127 then [94, 63] else [b]

/-- What is shown for a byte that ends no line. -/
def Manner.show (m : Manner) (b : UInt8) : Bytes :=
  if b = 9 then if m.showTabs then [94, 73] else [9]
  else if !m.showControls then [b]
  else if b < 128 then visibleLow b
  else [77, 45] ++ visibleLow (b - 128)

/-- How far the copy has come. -/
structure Progress where
  line : Nat := 0
  /-- How many empty lines came last. -/
  empty : Nat := 0
  atStart : Bool := true

/-- The number at the start of a line. -/
def numberField (n : Nat) : Bytes := Octets.toBytes (alignRight 6 (toString n) ++ "\t").toList

/-- What is shown for a line with its line feed, or for the last one, which may have none. -/
def Manner.showLine (m : Manner) (s : Progress) (line : Bytes) : Bytes × Progress :=
  let ended := line.getLast? = some 10
  let body := if ended then line.dropLast else line
  let ending : Bytes := if !ended then [] else if m.showEnds then [36, 10] else [10]
  let isEmpty := s.atStart && body.isEmpty
  if isEmpty && m.squeeze && 0 < s.empty then ([], { s with empty := s.empty + 1 })
  else
    let numbered := m.number && s.atStart && !(isEmpty && m.skipEmpty)
    -- a carriage return before the end of a line is shown where that end is
    let shown :=
      if m.showEnds ∧ !m.showControls ∧ ended ∧ body.getLast? = some 13 then
        body.dropLast.flatMap m.show ++ [94, 77]
      else body.flatMap m.show
    ((if numbered then numberField (s.line + 1) else []) ++ shown ++ ending,
      { line := if numbered then s.line + 1 else s.line,
        empty := if isEmpty then s.empty + 1 else 0, atStart := ended })

/-- What is shown for a source. -/
def Manner.showSource (m : Manner) (s : Progress) (source : Source) : Source × Progress :=
  let (shown, s) := (linesOf source.bytes).foldl (fun (acc : List Bytes × Progress) line =>
    let (b, s) := m.showLine acc.2 line
    (b :: acc.1, s)) ([], s)
  (⟨shown.reverse.flatten, source.cycle.flatMap m.show⟩, s)

end Cat

/-- Copies files to the output. -/
def cat : Tool := fun program args =>
  withOptions Cat.switches true program args fun g => do
    match (← get).descriptor? 1 with
    | none =>
      complain program "standard output: Bad file descriptor"
      return 1
    | some output =>
      let m := Cat.Manner.ofGiven g
      let operands := if g.operands.isEmpty then ["-"] else g.operands
      let failed (name text : String) (s : Cat.Progress) : Work (Bool × Cat.Progress) := do
        complain program s!"{shellName name}: {text}"
        return (false, s)
      let one (name : String) (s : Cat.Progress) : Work (Bool × Cat.Progress) := do
        match ← openOperand name with
        | .error f => failed name f.description s
        | .ok input =>
          if (← get).feedsItself input output then failed name "input file is output file" s
          else
            match ← (fun p => p.drain input : Work (Except IoFault Source)) with
            | .error f => failed name f.description s
            | .ok source =>
              let (shown, s) := if m.isPlain then (source, s) else m.showSource s source
              put shown
              return (true, s)
      let (good, _) ← operands.foldlM (fun (acc : Bool × Cat.Progress) name => do
        let (good, s) ← one name acc.2
        return (acc.1 && good, s)) (true, {})
      closeInput program "closing standard input" (operands.contains "-") good

end BenchRoster.Tool
