/-
# Counting lines, words and bytes

Five counts of files: lines, words, characters, bytes and the width of the longest line.  A
character is a byte.  A word is a run of bytes that are no white space, if one of them can be shown.
-/
import BenchRoster.Tool.Basic

namespace BenchRoster.Tool

namespace Count

/-- The counts of a file. -/
structure Counts where
  lines : Nat := 0
  words : Nat := 0
  bytes : Nat := 0
  width : Nat := 0
deriving DecidableEq

/-- The counts of two files together; the longest line is the longer one. -/
def Counts.add (a b : Counts) : Counts :=
  ⟨a.lines + b.lines, a.words + b.words, a.bytes + b.bytes, max a.width b.width⟩

/-- How far a file has been counted. -/
structure Progress where
  counts : Counts := {}
  /-- The present run of bytes is counted as a word. -/
  inWord : Bool := false
  column : Nat := 0

def isSpace (b : UInt8) : Bool := b == 32 || (9 ≤ b && b ≤ 13)

def isShown (b : UInt8) : Bool := 32 ≤ b && b ≤ 126

/-- Counts one more byte. -/
def Progress.step (s : Progress) (b : UInt8) : Progress :=
  let c := s.counts
  let ends := b = 10 ∨ b = 12 ∨ b = 13
  let column :=
    if ends then 0
    else if b = 9 then s.column + 8 - s.column % 8
    else if isShown b then s.column + 1
    else s.column
  let begins := !s.inWord && !isSpace b && isShown b
  { counts :=
      { lines := if b = 10 then c.lines + 1 else c.lines,
        words := if begins then c.words + 1 else c.words,
        bytes := c.bytes + 1,
        width := if ends then max c.width s.column else c.width },
    inWord := !isSpace b && (s.inWord || isShown b),
    column }

/-- The counts of some bytes. -/
def ofBytes (b : Bytes) : Counts :=
  let s := b.foldl Progress.step {}
  { s.counts with width := max s.counts.width s.column }

example : ofBytes (Text.utf8 "a bc\n\td\n") = ⟨2, 3, 8, 9⟩ := by decide +kernel

def switches : List Switch :=
  [⟨some 'c', "bytes", .nothing⟩, ⟨some 'm', "chars", .nothing⟩, ⟨some 'l', "lines", .nothing⟩,
   ⟨some 'w', "words", .nothing⟩, ⟨none, "debug", .nothing⟩, ⟨none, "files0-from", .something⟩,
   ⟨some 'L', "max-line-length", .nothing⟩, ⟨none, "total", .something⟩,
   ⟨none, "help", .nothing⟩, ⟨none, "version", .nothing⟩]

/-- The counts that are asked for, in the order in which they are shown. -/
def Counts.chosen (c : Counts) (options : List String) : List Nat :=
  let shown (name : String) (n : Nat) : List Nat := if options.contains name then [n] else []
  shown "l" c.lines ++ shown "w" c.words ++ shown "m" c.bytes ++ shown "c" c.bytes ++
    shown "L" c.width

/-- A line of counts with the name of the file. -/
def lineOf (numbers : List Nat) (width : Nat) (name : Option String) : String :=
  let fields := numbers.map fun n => alignRight width (toString n)
  " ".intercalate (fields ++ name.toList) ++ "\n"

/-- The size of what an operand stands for; none if it cannot be opened, and no size for a
pipe, a device or a directory. -/
def sizeOf (p : Process) (name : String) : Option (Option Nat) :=
  if name = "-" then
    match p.descriptor? 0 with
    | none => none
    | some d =>
      match p.handles[d.handle]? with
      | some (.file place _ _) => some (some (p.contentAt place).length)
      | _ => some none
  else
    match p.find name with
    | .ok (_, .file _ content) => some (some content.length)
    | .ok _ => some none
    | .error _ => none

/-- When the sums are shown. -/
inductive Sums where
  | ifSeveral
  | always
  /-- Without the counts of the files. -/
  | only
  | never
deriving DecidableEq

/-- Reads when the sums are to be shown; the start of a word is enough if no other one has it. -/
def sumsOf (word : String) : Except String Sums :=
  let known : List (String × Sums) :=
    [("auto", .ifSeveral), ("always", .always), ("only", .only), ("never", .never)]
  let found :=
    match known.lookup word with
    | some s => [s]
    | none => (known.filter fun k => word.toList.isPrefixOf k.1.toList).map (·.2)
  match found with
  | [s] => .ok s
  | [] => .error "invalid"
  | _ => .error "ambiguous"

/-- What is said about a word that does not tell when the sums are to be shown. -/
def sumsFault (kind word : String) : String :=
  s!"{kind} argument {quoted word} for '--total'\nValid arguments are:\n  - 'auto'\n" ++
    "  - 'always'\n  - 'only'\n  - 'never'"

/-- The width of the fields: that of the sum of the sizes, and at least 7 if a size is missing. -/
def fieldWidth (sizes : List (Option (Option Nat))) : Nat :=
  match sizes with
  | some _ :: _ =>
    let known := sizes.filterMap id
    let sum := (known.filterMap id).foldl (· + ·) 0
    max (toString sum).length (if known.any (·.isNone) then 7 else 1)
  | _ => 1

end Count

/-- Counts lines, words and bytes. -/
def wc : Tool := fun program args =>
  withOptions Count.switches true program args fun g => do
    let asked := (g.options.map (·.1)).filter fun o => ["l", "w", "m", "c", "L"].contains o
    let asked := if asked.isEmpty then ["l", "w", "c"] else asked
    match (g.last? "total").elim (.ok .ifSeveral) Count.sumsOf with
    | .error kind =>
      complainOfUse program (Count.sumsFault kind ((g.last? "total").getD ""))
      return 1
    | .ok sums =>
    let p ← get
    let operands := if g.operands.isEmpty then ["-"] else g.operands
    let width :=
      if sums = .only then 1
      else if operands.length = 1 ∧ (Count.Counts.chosen {} asked).length = 1 then 1
      else Count.fieldWidth (operands.map (Count.sizeOf p))
    let one (total : Bool × Count.Counts) (name : String) : Work (Bool × Count.Counts) := do
      let shownName := if g.operands.isEmpty then none else some name
      match ← readOperand name with
      | .ok s =>
        let c := Count.ofBytes s.bytes
        if sums ≠ .only then putText (Count.lineOf (c.chosen asked) width shownName)
        return (total.1, total.2.add c)
      | .error f =>
        let readable := f = .isADirectory ∨ f = .badDescriptor
        let title := (shownName.map shellName).getD (shellQuoted "standard input")
        complain program s!"{title}: {f.description}"
        if readable ∧ sums ≠ .only then
          putText (Count.lineOf (Count.Counts.chosen {} asked) width shownName)
        return (false, total.2)
    let (good, total) ← operands.foldlM one (true, {})
    let shown : Bool :=
      match sums with
      | .ifSeveral => 1 < operands.length
      | .never => false
      | _ => true
    if shown then
      let name := if sums = .only then none else some "total"
      putText (Count.lineOf (total.chosen asked) width name)
    closeInput program "-" (operands.contains "-") good

end BenchRoster.Tool
