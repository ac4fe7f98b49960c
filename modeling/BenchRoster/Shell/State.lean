/-
# The state of a shell

A shell is a process with variables, arguments and functions.  Commands are steps on its state that
may also end something: a loop, a function, or the shell.
-/
import BenchRoster.Finished
import BenchRoster.Process
import BenchRoster.Shell.Reading

namespace BenchRoster.Shell

/-- A variable; it may be known without having a value. -/
structure Variable where
  value : Option String := none
  exported : Bool := false
  readonly : Bool := false
deriving DecidableEq, Repr

/-- What ends more than the present command. -/
inductive Jump where
  /-- The shell ends with the present status. -/
  | exit
  /-- A fault that ends the shell, unless it happens in a builtin that is not special. -/
  | fault
  /-- A signal ends this part of the shell, or the shell as a whole. -/
  | signal (number : Nat) (whole : Bool)
  /-- Leaves so many loops more than the innermost one. -/
  | leave (loops : Nat)
  /-- Goes on with the next round of the loop so far out. -/
  | again (loops : Nat)
  /-- Leaves a function or a script that was read in, perhaps with a status that was given. -/
  | back (given : Bool)
  /-- More steps were taken than there are. -/
  | exhausted
deriving DecidableEq, Repr

structure State extends Process where
  /-- The name in complaints. -/
  name : String := "sh"
  arguments : List String := []
  vars : List (String × Variable) := []
  functions : List (String × Nat × Command) := []
  /-- The letters of the options that are set. -/
  options : List Char := []
  status : Nat := 0
  /-- The line that complaints name. -/
  line : Nat := 0
  /-- The line that the reading of the script has come to. -/
  lineRead : Nat := 0
  /-- The builtin that is at work. -/
  builtin : Option String := none
  /-- How many loops can be left. -/
  loops : Nat := 0
  /-- How many functions are at work. -/
  calls : Nat := 0
  /-- How many scripts are being read inside of others. -/
  depth : Nat := 0
  /-- For each function at work, its variables of the outside. -/
  locals : List (List (String × Option Variable)) := []
  /-- The commands for signals; number 0 is the end of the shell. -/
  traps : List (Nat × String) := []
  /-- Signals whose commands are still to be run. -/
  pending : List Nat := []
  /-- The status from before the command for a signal that is being run. -/
  interrupted : Option Nat := none
  /-- The number of the shell that `$$` gives, and the next one that is free. -/
  shellId : Nat
  nextId : Nat
  /-- The last command that was not waited for. -/
  lastBackground : Option Nat := none
  /-- How commands ended that were not waited for. -/
  endings : List (Nat × ExitStatus) := []
  /-- The argument that `getopts` looks at next, and how far it has come in the one before. -/
  optionIndex : Nat := 1
  optionOffset : Option Nat := none
  /-- The status of the last command of which the output was put into a word. -/
  captured : Nat := 0
  /-- Names that stand for other text where a command begins. -/
  aliases : List (String × String) := []
  /-- The programs that were found in the search path, with their paths. -/
  tracked : List (String × String) := []
  /-- The permissions that new files are not given. -/
  mask : Nat := 0o022
  /-- In a part of the shell that runs on its own, the commands for signals of the shell itself. -/
  outerTraps : Option (List (Nat × String)) := none
  /-- Signals that such a part has sent to the shell itself. -/
  sent : List Nat := []
  /-- A part of a trace is being worked out. -/
  tracing : Bool := false
  /-- The steps that may still be taken. -/
  steps : Nat

abbrev Run := EStateM Jump State

instance {α : Type} : Inhabited (Run α) := ⟨throw .exhausted⟩

/-! ## Complaints -/

/-- What stands before a complaint. -/
def State.complaintHead (s : State) : String :=
  match s.builtin with
  | some b => s!"{s.name}: {s.line}: {b}: "
  | none => s!"{s.name}: {s.line}: "

/-- Writes text to the standard error stream. -/
def say (text : String) : Run Unit :=
  modify fun s => { s with toProcess := s.toProcess.say text }

def complain (text : String) : Run Unit := do
  say (s!"{(← get).complaintHead}{text}\n")

def setStatus (n : Nat) : Run Unit := modify fun s => { s with status := n }

/-- Complains and gives up. -/
def fail {α : Type} (text : String) : Run α := do
  complain text
  setStatus 2
  throw .fault

/-- Gives up for an argument that should be a number. -/
def failNumber {α : Type} (text : String) : Run α := fail s!"Illegal number: {text}"

/-- Takes one of the steps that are left. -/
def tick : Run Unit := fun s =>
  match s.steps with
  | 0 => .error .exhausted s
  | n + 1 => .ok () { s with steps := n }

/-- Writes octets to the standard output. -/
def put (text : String) : Run Unit :=
  modify fun s => { s with toProcess := s.toProcess.put (.ofBytes (Octets.toBytes text.toList)) }

/-- A step of the process. -/
def inProcess {α : Type} (f : Process → α × Process) : Run α := fun s =>
  let (a, p) := f s.toProcess
  .ok a { s with toProcess := p }

/-! ## Options -/

/-- The letters and names of options. -/
def optionNames : List (Char × String) :=
  [('e', "errexit"), ('f', "noglob"), ('I', "ignoreeof"), ('i', "interactive"), ('m', "monitor"),
   ('n', "noexec"), ('s', "stdin"), ('x', "xtrace"), ('v', "verbose"), ('V', "vi"),
   ('E', "emacs"), ('C', "noclobber"), ('a', "allexport"), ('b', "notify"), ('u', "nounset"),
   ('p', "privileged")]

def State.has (s : State) (option : Char) : Bool := s.options.contains option

def setOption (option : Char) (on : Bool) : Run Unit :=
  modify fun s =>
    let others := s.options.filter (· != option)
    { s with options := if on then option :: others else others }

/-! ## Variables -/

namespace State

def known? (s : State) (name : String) : Option Variable := s.vars.lookup name

/-- The value of a variable. -/
def valueOf? (s : State) (name : String) : Option String := (s.known? name).bind (·.value)

def setVariable (s : State) (name : String) (v : Option Variable) : State :=
  match v with
  | none => { s with vars := s.vars.filter (·.1 != name) }
  | some v =>
    if s.vars.any (·.1 == name) then
      { s with vars := s.vars.map fun old => if old.1 == name then (name, v) else old }
    else { s with vars := s.vars ++ [(name, v)] }

/-- How many rows variables are kept in. -/
def rows : Nat := 39

/-- The row that a variable is kept in. -/
def rowOf (name : String) : Nat :=
  let codes := name.toList.map Char.toNat
  (codes.headD 0 * 16 + codes.foldl (· + ·) 0) % rows

/-- The variables that programs are given, row by row. -/
def exported (s : State) : List (String × String) :=
  let all := s.vars.filterMap fun (name, v) =>
    if v.exported then v.value.map fun value => (name, value) else none
  all.mergeSort fun a b => rowOf a.1 ≤ rowOf b.1

/-- The characters that separate fields. -/
def separators (s : State) : List Char :=
  match s.valueOf? "IFS" with
  | some v => v.toList
  | none => [' ', '\t', '\n']

/-- The directories in which programs are looked up. -/
def searchPath (s : State) : List String :=
  match s.valueOf? "PATH" with
  | some v => v.splitOn ":"
  | none => []

/-- The value of an argument or a special parameter, or of a variable. -/
def parameter? (s : State) (name : List Char) : Option String :=
  let separator : List Char :=
    match s.known? "IFS" with
    | some ⟨some v, _, _⟩ => v.toList.take 1
    | _ => [' ']
  let together := (String.ofList separator).intercalate s.arguments
  match name with
  | ['#'] => some (toString s.arguments.length)
  | ['?'] => some (toString s.status)
  | ['$'] => some (toString s.shellId)
  | ['-'] =>
    some (String.ofList ((optionNames.map (·.1)).reverse.filter s.options.contains))
  | ['!'] => s.lastBackground.map toString
  | ['@'] => some together
  | ['*'] => some together
  | cs =>
    if cs.all Char.isDigit then
      match cs.foldl (fun n d => n * 10 + (d.toNat - 48)) 0 with
      | 0 => some s.name
      | n + 1 => s.arguments[n]?
    else s.valueOf? (String.ofList cs)

end State

/-- Gives a variable a value. -/
def assign (name value : String) (exporting : Bool) : Run Unit := do
  let s ← get
  let old := (s.known? name).getD {}
  if old.readonly then fail s!"{name}: is read only"
  let exported := old.exported || exporting || s.has 'a'
  let s :=
    if name = "OPTIND" then
      { s with optionIndex := max 1 (value.toNat?.getD 1), optionOffset := none }
    else if name = "PATH" then { s with tracked := [] }
    else s
  set (s.setVariable name (some { old with value := some value, exported }))

/-- Remembers a variable of the outside, to be put back at the end of the function.  A hyphen stands
for the options. -/
def makeLocal (name : String) : Run Unit :=
  modify fun s =>
    let kept : Option Variable :=
      if name = "-" then some { value := some (String.ofList s.options) } else s.known? name
    match s.locals with
    | frame :: frames =>
      if frame.any (·.1 == name) then s
      else { s with locals := ((name, kept) :: frame) :: frames }
    | [] => s

/-- Puts back a variable of the outside. -/
def State.putBack (s : State) (v : String × Option Variable) : State :=
  if v.1 = "-" then { s with options := ((v.2.bind (·.value)).getD "").toList }
  else s.setVariable v.1 v.2

/-- Puts back the variables of the outside. -/
def State.leaveFrame (s : State) : State :=
  match s.locals with
  | frame :: frames => { frame.foldl State.putBack s with locals := frames }
  | [] => s

/-- Runs something with variables of its own. -/
def keepingVariables {α : Type} (body : Run α) : Run α := fun s =>
  match body { s with locals := [] :: s.locals } with
  | .ok a t => .ok a t.leaveFrame
  | .error j t => .error j t.leaveFrame

/-! ## Descriptors -/

/-- Opens a file for a redirection. -/
def openFor (d : Direction) (name : String) : Run Connection := do
  let s ← get
  let access : Access :=
    match d with
    | .input => .reading
    | .append => .appending
    | .update => .updating
    | _ => .writing
  match s.toProcess.openPath name access with
  | .ok (descriptor, p) =>
    set { s with toProcess := p }
    return descriptor
  | .error f =>
    let reason :=
      match f, access with
      | .noEntry, .reading => "No such file"
      | .notADirectory, .reading => "No such file"
      | .noEntry, _ => "Directory nonexistent"
      | .notADirectory, _ => "Directory nonexistent"
      | f, _ => f.description
    let verb := if access = .reading then "open" else "create"
    fail s!"cannot {verb} {name}: {reason}"

/-- Opens a pipe that holds some bytes already. -/
def openPipe (b : Bytes) : Run Nat :=
  inProcess fun p => p.addHandle (.pipe { front := b })

def connect (n : Nat) (d : Option Connection) : Run Unit :=
  modify fun s => { s with toProcess := s.toProcess.connect n d }

/-- What was written to a pipe. -/
def State.pipeContent (s : State) (handle : Nat) : Source :=
  match s.handles[handle]? with
  | some (.pipe stream) => stream.source
  | _ => {}

/-- Runs something that is in one more loop. -/
def inLoop {α : Type} (body : Run α) : Run α := fun s =>
  match body { s with loops := s.loops + 1 } with
  | .ok a t => .ok a { t with loops := s.loops }
  | .error j t => .error j { t with loops := s.loops }

/-- How deep scripts may be inside of others, before the memory for them ends. -/
def maxScripts : Nat := 1500

/-- Runs something that is one script deeper. -/
def deeper {α : Type} (body : Run α) : Run α := fun s =>
  if maxScripts ≤ s.depth then .error (.signal 11 false) s
  else
    match body { s with depth := s.depth + 1 } with
    | .ok a t => .ok a { t with depth := s.depth }
    | .error j t => .error j { t with depth := s.depth }

/-- Runs something and then puts the descriptors back, whatever happens. -/
def keepingDescriptors {α : Type} (body : Run α) : Run α := fun s =>
  let kept := s.descriptors
  match body s with
  | .ok a t => .ok a { t with descriptors := kept }
  | .error j t => .error j { t with descriptors := kept }

/-- What a part of the shell that runs on its own starts with: no commands for signals but those
that are ignored, and none of the programs that are not waited for. -/
def State.inSubshell (s : State) : State :=
  { s with
    traps := s.traps.filter fun t => t.1 != 0 && t.2 == "", pending := [], sent := [],
    endings := [],
    interrupted := none,
    outerTraps := some (s.outerTraps.getD s.traps) }

/-- Such a part changes nothing but files and what is open. -/
def State.afterSubshell (s inner : State) : State :=
  let s := { s with files := inner.files, handles := inner.handles, nextId := inner.nextId,
                    steps := inner.steps }
  if s.outerTraps.isSome then { s with sent := s.sent ++ inner.sent }
  else { s with pending := s.pending ++ inner.sent }

end BenchRoster.Shell
