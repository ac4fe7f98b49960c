/-
# Editing lines

A line editor goes over its input line by line.  Each line is put into a workspace, the commands of
a script work on it as far as their addresses select it, and what has become of it is written.
-/
import BenchRoster.Tool.Edit.Progress
import BenchRoster.Tool.Edit.Reading

namespace BenchRoster.Tool.Edit

/-! ## Commands at work -/

/-- How the work on a line goes on. -/
inductive Turn where
  /-- With the command of this number. -/
  | goTo (index : Nat)
  | endLine
  /-- Without writing the line. -/
  | dropLine
  /-- From the first command on with what is left in the workspace. -/
  | restart
  | quit (status : Nat) (silent : Bool)

/-- The number of the command behind a label; no label stands for the end. -/
def indexOf (cs : Array Command) (name : List Char) : Nat :=
  if name.isEmpty then cs.size
  else
    (cs.findIdx? fun c =>
      match c.action with
      | .label n => n == name
      | _ => false).getD cs.size

/-- Carries out a command. -/
def perform (contentOf : String → List Char) (quiet : Bool) (cs : Array Command) (index : Nat)
    (c : Command) (s : Progress) : Turn × Progress :=
  let go : Turn := .goTo (index + 1)
  let isRange := c.selection.stop.isSome && !c.selection.negated
  match c.action with
  | .block _ => (go, s)
  | .blockEnd => (go, s)
  | .label _ => (go, s)
  | .nothing => (go, s)
  | .substitute sub =>
    let (e, s) := s.expressionOf sub.finder
    let (new, done) := replaceIn sub e (2 * s.work.length + 2) 0 false none s.work
    let s := { s with work := new, replaced := s.replaced || done }
    let s := if done && sub.print then s.writeLine s.work s.workEnded else s
    (go, if done then sub.file.elim s s.store else s)
  | .translate table =>
    (go, { s with work := s.work.map fun c => (table.lookup c).getD c })
  | .delete => (.dropLine, s)
  | .deleteFirst =>
    if s.work.contains '\n' then
      (.restart, { s with work := (s.work.dropWhile (· != '\n')).drop 1 })
    else (.dropLine, s)
  | .print => (go, s.writeLine s.work s.workEnded)
  | .printFirst => (go, s.writeLine (s.work.takeWhile (· != '\n')) true)
  | .next =>
    if s.isLast then (.quit 0 false, s)
    else
      let s := (if quiet then s else s.writeLine s.work s.workEnded).flush
      (go, (s.advance?).getD s)
  | .nextAppended =>
    let before := s.work
    match s.flush.advance? with
    | none => (.quit 0 false, s)
    | some s => (go, { s with work := before ++ '\n' :: s.work })
  | .hold false => (go, { s with held := s.work, heldEnded := s.workEnded })
  | .hold true =>
    (go, { s with held := s.held ++ '\n' :: s.work, heldEnded := s.heldEnded || s.workEnded })
  | .recall false => (go, { s with work := s.held, workEnded := s.heldEnded })
  | .recall true =>
    (go, { s with work := s.work ++ '\n' :: s.held, workEnded := s.workEnded || s.heldEnded })
  | .exchange =>
    (go, { s with
      work := s.held, workEnded := s.heldEnded, held := s.work, heldEnded := s.workEnded })
  | .clear => (go, { s with work := [] })
  | .store file => (go, s.store file)
  | .include file => (go, { s with queue := s.queue ++ [contentOf file] })
  | .append text => (go, { s with queue := s.queue ++ [text] })
  | .insert text => (go, s.write text)
  | .change text =>
    let ends := !isRange || (s.ranges.lookup index).isNone
    (.dropLine, if ends then s.write text else s)
  | .quit status silent => (.quit status silent, s)
  | .jump name => (.goTo (indexOf cs name), s)
  | .jumpIf replaced name =>
    if s.replaced == replaced then (.goTo (indexOf cs name), { s with replaced := false })
    else (go, { s with replaced := false })
  | .number => (go, s.write ((toString s.lineNumber).toList ++ ['\n']))
  | .list => (go, s.write (listed s.work))

/-- How many commands are carried out for one line at most. -/
def maxSteps : Nat := 1000000

/-- Carries out the commands from one on. -/
def runFrom (contentOf : String → List Char) (quiet : Bool) (cs : Array Command) :
    Nat → Nat → Progress → Turn × Progress
  | 0, _, s => (.endLine, s)
  | fuel + 1, index, s =>
    match cs[index]? with
    | none => (.endLine, s)
    | some c =>
      let (selected, s) := s.isSelected index c.selection
      if !selected then
        match c.action with
        | .block stop => runFrom contentOf quiet cs fuel (stop + 1) s
        | _ => runFrom contentOf quiet cs fuel (index + 1) s
      else
        match perform contentOf quiet cs index c s with
        | (.goTo i, s) => runFrom contentOf quiet cs fuel i s
        | r => r

/-- Ends the work on a line. -/
def finishLine (quiet : Bool) (s : Progress) : Progress :=
  (if quiet then s else s.writeLine s.work s.workEnded).flush

/-- Works on all lines, and answers the exit status. -/
def runLines (contentOf : String → List Char) (quiet : Bool) (cs : Array Command) :
    Nat → Progress → Nat × Progress
  | 0, s => (0, s)
  | n + 1, s =>
    match s.advance? with
    | none => (0, s)
    | some s => turns n (maxSteps + 1) { s with replaced := false }
where
  turns (n : Nat) : Nat → Progress → Nat × Progress
    | 0, s => (0, s)
    | fuel + 1, s =>
      match runFrom contentOf quiet cs maxSteps 0 s with
      | (.endLine, s) => runLines contentOf quiet cs n (finishLine quiet s)
      | (.goTo _, s) => runLines contentOf quiet cs n (finishLine quiet s)
      | (.dropLine, s) => runLines contentOf quiet cs n s.flush
      | (.restart, s) => turns n fuel s.flush
      | (.quit status true, s) => (status, s)
      | (.quit status false, s) => (status, finishLine quiet s)

/-- The lines of some bytes in octets, each with whether it ends in a line feed. -/
def linesFor (b : Bytes) : List (List Char × Bool) :=
  (linesOf b).map fun line =>
    let ended := line.getLast? = some 10
    (Octets.ofBytes (if ended then line.dropLast else line), ended)

/-! ## The program -/

def switches : List Switch :=
  [⟨some 'n', "quiet", .nothing⟩, ⟨some 'n', "silent", .nothing⟩,
   ⟨some 'e', "expression", .something⟩, ⟨some 'f', "file", .something⟩,
   ⟨some 'E', "regexp-extended", .nothing⟩, ⟨some 'r', "", .nothing⟩,
   ⟨some 's', "separate", .nothing⟩, ⟨some 'u', "unbuffered", .nothing⟩,
   ⟨none, "posix", .nothing⟩, ⟨none, "debug", .nothing⟩, ⟨none, "sandbox", .nothing⟩,
   ⟨none, "help", .nothing⟩, ⟨none, "version", .nothing⟩]

/-- The first line about the use of the program. -/
def usage : String :=
  "Usage: sed [OPTION]... \x7bscript-only-if-no-other-script\x7d [input-file]...\n"

/-- Makes or empties a file, and tells whether that could be done. -/
def clear (name : String) : Work Bool := fun p =>
  match p.openPath name .writing with
  | .ok (_, p) => (true, p)
  | .error _ => (false, p)

end Edit

/-- Edits the lines of files. -/
def sed : Tool := fun program args => do
  match readArguments Edit.switches true args with
  | .error e =>
    complain program e
    modify (Process.say Edit.usage)
    return 1
  | .ok g =>
    let given := g.options.filterMap fun o => if o.1 == "e" then o.2 else none
    match given, g.operands with
    | [], [] =>
      modify (Process.say Edit.usage)
      return 1
    | given, operands =>
      let (parts, operands) : List String × List String :=
        if given.isEmpty then (operands.take 1, operands.tail) else (given, operands)
      let extended := g.has "E" || g.has "r"
      match Edit.ofParts extended parts with
      | .error f =>
        complain program s!"-e expression #{f.part}, char {f.position}: {f.message}"
        return 1
      | .ok cs =>
        match Edit.missingLabel? cs with
        | some name =>
          complain program s!"can't find label for jump to \x60{String.ofList name}'"
          return 1
        | none =>
          let read (acc : Bool × List (List Char × Bool)) (name : String) :
              Work (Bool × List (List Char × Bool)) := do
            match ← readOperand name with
            | .ok s => return (acc.1, acc.2 ++ Edit.linesFor s.bytes)
            | .error .isADirectory =>
              complain program s!"read error on {name}: Is a directory"
              return (false, acc.2)
            | .error f =>
              complain program s!"can't read {name}: {f.description}"
              return (false, acc.2)
          let (good, lines) ←
            (if operands.isEmpty then ["-"] else operands).foldlM read (true, [])
          let quiet := g.has "n"
          let files := Edit.filesOf cs
          match ← files.findM? fun name => return !(← Edit.clear name) with
          | some name =>
            complain program s!"couldn't open file {name}: No such file or directory"
            return 4
          | none => pure ()
          let p ← get
          let contentOf (name : String) : List Char :=
            match p.find name with
            | .ok (_, .file _ content) => Octets.ofBytes content
            | _ => []
          let (status, s) :=
            Edit.runLines contentOf quiet cs.toArray (lines.length + 1) { ahead := lines }
          files.forM fun name =>
            modify fun p => { p with files := (p.files.store p.workDir (Octets.toText name)
              (Octets.toBytes (s.stored.reverse.flatMap fun f =>
                if f.1 == name then f.2 else []))).toOption.getD p.files }
          putBytes (Octets.toBytes s.written.reverse.flatten)
          return if status = 0 ∧ !good then 2 else status

end BenchRoster.Tool
