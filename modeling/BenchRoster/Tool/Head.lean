/-
# The start of files

The first lines or bytes of files, or all but the last ones.  From a file only what is shown is
taken, so that another program can go on behind it; from a pipe whole blocks are taken.
-/
import BenchRoster.Tool.Amount
import BenchRoster.Tool.Basic

namespace BenchRoster.Tool

/-- What part of a file is shown. -/
structure Extent where
  /-- Lines are counted, or else bytes. -/
  lines : Bool := true
  /-- The part that is not shown is counted. -/
  others : Bool := false
  count : Nat := 10
  /-- The byte that ends a line. -/
  lineEnd : UInt8 := 10

/-- The kind of things that are counted. -/
def Extent.unit (e : Extent) : String := if e.lines then "lines" else "bytes"

namespace Head

/-- How many bytes are read at a time. -/
def blockSize : Nat := 8192

/-- The length of the first lines, so many of them at most, added to a number. -/
def lengthOfLines (lineEnd : UInt8) : Nat → Nat → Bytes → Nat
  | length, 0, _ => length
  | length, _ + 1, [] => length
  | length, n + 1, b :: bs =>
    lengthOfLines lineEnd (length + 1) (if b = lineEnd then n else n + 1) bs

/-- The number of lines; the last one may lack its end. -/
def lineCount (lineEnd : UInt8) (b : Bytes) : Nat :=
  b.count lineEnd + if b.isEmpty || b.getLast? = some lineEnd then 0 else 1

/-- The start of a source that is shown. -/
def start (e : Extent) (s : Source) : Bytes :=
  match e.lines, e.others with
  | true, false => s.bytes.take (lengthOfLines e.lineEnd 0 e.count s.bytes)
  | true, true =>
    let lines := lineCount e.lineEnd s.bytes - e.count
    s.bytes.take (lengthOfLines e.lineEnd 0 lines s.bytes)
  | false, false => (s.take e.count).1
  | false, true => s.bytes.take (s.bytes.length - e.count)

/-- How much of a pipe is taken to show so many bytes. -/
def taken (e : Extent) (shown : Nat) : Nat :=
  if !e.lines && !e.others then shown
  else (shown + blockSize - 1) / blockSize * blockSize

def switches : List Switch :=
  [⟨some 'c', "bytes", .something⟩, ⟨some 'n', "lines", .something⟩,
   ⟨some 'q', "quiet", .nothing⟩, ⟨some 'q', "silent", .nothing⟩,
   ⟨some 'v', "verbose", .nothing⟩, ⟨some 'z', "zero-terminated", .nothing⟩,
   ⟨none, "help", .nothing⟩, ⟨none, "version", .nothing⟩] ++
  (List.range 10).map fun d => ⟨some (Char.ofNat (48 + d)), "", .perhaps⟩

/-- The options that letters behind a number stand for; a letter that is none of them is wrong. -/
def trailing (number : String) : List Char → Except String (List (String × Option String))
  | [] => .ok []
  | c :: cs => do
    let rest ← trailing number cs
    match c with
    | 'c' => .ok (("c", some number) :: rest)
    | 'b' => .ok (("c", some (number ++ "b")) :: rest)
    | 'k' => .ok (("c", some (number ++ "k")) :: rest)
    | 'm' => .ok (("c", some (number ++ "m")) :: rest)
    | 'l' => .ok (("n", some number) :: rest)
    | 'q' => .ok (("q", none) :: rest)
    | 'v' => .ok (("v", none) :: rest)
    | 'z' => .ok (("z", none) :: rest)
    | c => .error s!"invalid trailing option -- {String.ofList [c]}"

/-- A first argument that is a hyphen and a number, with letters behind it. -/
def numberFirst? (args : List String) :
    Option (Except String (List (String × Option String)) × List String) :=
  match args with
  | a :: rest =>
    match a.toList with
    | '-' :: d :: cs =>
      if d.isDigit then
        let number := String.ofList ((d :: cs).takeWhile Char.isDigit)
        some ((trailing number ((d :: cs).dropWhile Char.isDigit)).map
          fun os => ("n", some number) :: os, rest)
      else none
    | _ => none
  | [] => none

/-- The extent that options ask for; the last one counts. -/
def extentOf (options : List (String × Option String)) : Except String Extent :=
  options.foldlM (fun e (name, value) =>
    if name = "n" ∨ name = "c" then
      let lines := name = "n"
      let kind := if lines then "lines" else "bytes"
      let (others, number) : Bool × String :=
        match (value.getD "").toList with
        | '-' :: cs => (true, String.ofList cs)
        | cs => (false, String.ofList cs)
      match amount number with
      | .ok count => .ok { e with lines, others, count }
      | .error f => .error s!"invalid number of {kind}: {quoted number}{f.ending}"
    else if name = "z" then .ok { e with lineEnd := 0 }
    else .ok e) {}

/-- Takes the start of the input, and answers it. -/
def takeInput (e : Extent) : Work (Except IoFault Bytes) := fun p =>
  match p.descriptor? 0 with
  | none => (.error .badDescriptor, p)
  | some d =>
    match p.source d with
    | .error f => (.error f, p)
    | .ok s =>
      let shown := start e s
      let count :=
        if !p.isPipe d then shown.length
        else if e.others then s.bytes.length
        else taken e shown.length
      let (b, rest) := s.take count
      (.ok shown, p.advance d b.length rest)

/-- The start of what an operand stands for. -/
def startOf (e : Extent) (name : String) : Work (Except IoFault Bytes) := do
  if e.count = 0 ∧ !e.others then
    -- nothing is read
    if name = "-" then return .ok []
    else return ((← get).openPath name .reading).map fun _ => []
  else if name = "-" then takeInput e
  else return (← readOperand name).map (start e)

/-- The name of a file in headings and complaints. -/
def titleOf (name : String) : String := if name = "-" then "standard input" else name

end Head

/-- Shows the start of files. -/
def head : Tool := fun program args => do
  let (first, args) : Except String (List (String × Option String)) × List String :=
    match Head.numberFirst? args with
    | some r => r
    | none => (.ok [], args)
  match first with
  | .error e =>
    complainOfUse program e
    return 1
  | .ok first =>
    withOptions Head.switches true program args fun g => do
      match g.options.find? fun o => o.1.all Char.isDigit with
      | some (digit, _) =>
        complainOfUse program s!"invalid trailing option -- {digit}"
        return 1
      | none => pure ()
      let options := first ++ g.options
      match Head.extentOf options with
      | .error e =>
        complain program e
        return 1
      | .ok e =>
        let verbosity := (options.filter fun o => o.1 == "q" || o.1 == "v").getLast?.map (·.1)
        let headings := verbosity == some "v" || (verbosity == none && 1 < g.operands.length)
        let operands := if g.operands.isEmpty then ["-"] else g.operands
        let one (name : String) (before : Bool) : Work (Bool × Bool) := do
          let title := Head.titleOf name
          let heading : Work Unit := do
            if headings then
              if before then putText "\n"
              putText s!"==> {title} <==\n"
          match ← Head.startOf e name with
          | .ok b =>
            heading
            putBytes b
            return (true, true)
          | .error f =>
            if f = .isADirectory ∨ f = .badDescriptor then
              heading
              -- with a count of what is left out, the size is asked for first
              let closed := ((← get).descriptor? 0).isNone
              let what := if e.others && closed then "cannot fstat" else "error reading"
              complain program s!"{what} {shellQuoted title}: {f.description}"
              return (false, true)
            else
              complain program s!"cannot open {shellQuoted title} for reading: {f.description}"
              return (false, before)
        let (good, _) ← operands.foldlM (fun (acc : Bool × Bool) name => do
          let (good, shown) ← one name acc.2
          return (acc.1 && good, shown)) (true, false)
        closeInput program "-" (operands.contains "-") good

end BenchRoster.Tool
