/-
# The end of files

The last lines or bytes of files, or all from some line or byte on.
-/
import BenchRoster.Tool.Head

namespace BenchRoster.Tool

namespace Tail

/-- The end of a source that is shown: of the last things, or from the counted one on. -/
def finish (e : Extent) (s : Source) : Source :=
  if s.isEndless then
    if e.lines || !e.others then ⟨[], []⟩ else (s.take (e.count - 1)).2
  else
    let b := s.bytes
    let skipped :=
      match e.lines, e.others with
      | true, false =>
        Head.lengthOfLines e.lineEnd 0 (Head.lineCount e.lineEnd b - e.count) b
      | true, true => Head.lengthOfLines e.lineEnd 0 (e.count - 1) b
      | false, false => b.length - e.count
      | false, true => e.count - 1
    .ofBytes (b.drop skipped)

def switches : List Switch :=
  [⟨some 'c', "bytes", .something⟩, ⟨some 'f', "follow", .perhaps⟩,
   ⟨some 'n', "lines", .something⟩, ⟨some 'q', "quiet", .nothing⟩,
   ⟨some 'q', "silent", .nothing⟩, ⟨some 'v', "verbose", .nothing⟩,
   ⟨some 'z', "zero-terminated", .nothing⟩, ⟨none, "help", .nothing⟩,
   ⟨none, "version", .nothing⟩] ++
  (List.range 10).map fun d => ⟨some (Char.ofNat (48 + d)), "", .perhaps⟩

/-- The extent that options ask for; the last one counts. -/
def extentOf (options : List (String × Option String)) : Except String Extent :=
  options.foldlM (fun e (name, value) =>
    if name = "n" ∨ name = "c" then
      let lines := name = "n"
      let kind := if lines then "lines" else "bytes"
      let (others, number) : Bool × String :=
        match (value.getD "").toList with
        | '+' :: cs => (true, String.ofList cs)
        | '-' :: cs => (false, String.ofList cs)
        | cs => (false, String.ofList cs)
      match amount number with
      | .ok count => .ok { e with lines, others, count }
      | .error f => .error s!"invalid number of {kind}: {quoted number}{f.ending}"
    else if name = "z" then .ok { e with lineEnd := 0 }
    else .ok e) {}

/-- A first argument that is a sign, a number and perhaps a unit, with one operand at most. -/
def numberFirst? (args : List String) : Option (Extent × List String) :=
  let alone : Bool :=
    match args with
    | [_] => true
    | [_, file] => file = "-" || file.toList.head? != some '-'
    | [_, second, _] => second = "--"
    | _ => false
  match args with
  | a :: rest =>
    match alone, a.toList with
    | true, sign :: cs =>
      if (sign = '-' ∧ cs ≠ [] ∧ cs ≠ ['c']) ∨ sign = '+' then
        let digits := cs.takeWhile Char.isDigit
        let count := digits.foldl (fun n d => n * 10 + (d.toNat - 48)) 0
        let extent? : Option (Bool × Nat) :=
          match cs.dropWhile Char.isDigit with
          | [] => some (true, 1)
          | ['l'] => some (true, 1)
          | ['c'] => some (false, 1)
          | ['b'] => some (false, 512)
          | _ => none
        extent?.map fun (lines, factor) =>
          (⟨lines, sign = '+', (if digits.isEmpty then 10 else count) * factor, 10⟩, rest)
      else none
    | _, _ => none
  | [] => none

end Tail

/-- Shows the end of files. -/
def tail : Tool := fun program args => do
  let (first, args) : Option Extent × List String :=
    match Tail.numberFirst? args with
    | some (e, rest) => (some e, rest)
    | none => (none, args)
  withOptions Tail.switches true program args fun g => do
    match g.options.find? fun o => o.1.all Char.isDigit with
    | some (digit, _) =>
      complain program s!"option used in invalid context -- {digit}"
      return 1
    | none => pure ()
    match first.elim (Tail.extentOf g.options) .ok with
    | .error e =>
      complain program e
      return 1
    | .ok e =>
      if e.count = 0 ∧ !e.others then return 0
      let verbosity := (g.options.filter fun o => o.1 == "q" || o.1 == "v").getLast?.map (·.1)
      let headings := verbosity == some "v" || (verbosity == none && 1 < g.operands.length)
      let operands := if g.operands.isEmpty then ["-"] else g.operands
      let one (name : String) (before : Bool) : Work (Bool × Bool) := do
        let title := Head.titleOf name
        let heading : Work Unit := do
          if headings then
            if before then putText "\n"
            putText s!"==> {title} <==\n"
        match ← readOperand name with
        | .ok s =>
          heading
          put (Tail.finish e s)
          return (true, true)
        | .error f =>
          if f = .isADirectory ∨ f = .badDescriptor then
            heading
            let closed := f = .badDescriptor ∧ ((← get).descriptor? 0).isNone
            let what := if closed then "cannot fstat" else "error reading"
            complain program s!"{what} {shellQuoted title}: {f.description}"
            return (false, true)
          else
            complain program s!"cannot open {shellQuoted title} for reading: {f.description}"
            return (false, before)
      let (good, _) ← operands.foldlM (fun (acc : Bool × Bool) name => do
        let (good, shown) ← one name acc.2
        return (acc.1 && good, shown)) (true, false)
      closeInput program "-" (operands.contains "-") good

end BenchRoster.Tool
