/-
# Simple commands

What the name of a simple command leads to, the fields of its words, and what is done around running
it: it is shown, faults of builtins are caught, functions get arguments, and programs are loaded.
-/
import BenchRoster.Shell.Builtin
import BenchRoster.Shell.Expansion

namespace BenchRoster.Shell

/-! ## Choosing -/

/-- What a simple command is to run. -/
structure Choice where
  name : String
  arguments : List String
  meaning : Builtin.Meaning
  /-- Faults end the shell, and assignments stay in force. -/
  special : Bool

/-- The directories in which programs are looked up when the search path is not asked. -/
def systemDirectories : List String :=
  ["/usr/local/sbin", "/usr/local/bin", "/usr/sbin", "/usr/bin", "/sbin", "/bin"]

/-- The arguments of `command` that are run, and whether the search path is not asked; nothing if it
is to say something about names. -/
def commandArguments? (standard : Bool) : List String → Option (Bool × List String)
  | [] => none
  | a :: as =>
    match a.toList with
    | ['-', '-'] => if as.isEmpty then none else some (standard, as)
    | '-' :: c :: cs =>
      if (c :: cs).all (· == 'p') then commandArguments? true as else none
    | _ => some (standard, a :: as)

/-- Finds out what to run; the name `command` in front passes over functions. -/
def State.choose (s : State) (directories : List String) (functions : Bool) (first : Bool) :
    Nat → List String → Choice
  | _, [] => ⟨"", [], .special, true⟩
  | n, name :: args =>
    let meaning := Builtin.meaningOf s directories functions name
    let special : Bool :=
      match meaning with
      | .special => first
      | _ => false
    let plain : Choice := ⟨name, args, meaning, special⟩
    match n, meaning with
    | n + 1, .regular =>
      if name = "command" then
        match commandArguments? false args with
        | some (standard, rest) =>
          s.choose (if standard then systemDirectories else directories) false false n rest
        | none => plain
      else plain
    | _, _ => plain

/-- The words so far belong to a command of which the arguments may be assignments. -/
def State.takesAssignments (s : State) (fields : List String) : Bool :=
  let c := s.choose s.searchPath true true fields.length fields
  match c.meaning with
  | .special => ["export", "readonly", "local"].contains c.name
  | .regular => c.name == "alias"
  | _ => false

/-- The fields of the words of a simple command. -/
def expandCommand (capture : Command → Run (List Char)) (ws : List Word) : Run (List String) :=
  ws.foldlM (fun fields w => do
    match assignment? w with
    | some (name, value) =>
      if (← get).takesAssignments fields then
        return fields ++ [s!"{name}={← expandAssigned capture value}"]
      else return fields ++ (← expandFields capture w)
    | none => return fields ++ (← expandFields capture w)) []

/-- Shows a command before it is run, where the standard error stream was connected before. -/
def trace (capture : Command → Run (List Char)) (output : Option Connection)
    (words : List String) : Run Unit := do
  let s ← get
  if s.has 'x' && !s.tracing then
    set { s with tracing := true }
    let mark : List Char := ((s.valueOf? "PS4").getD "").toList
    let first ←
      match documentParts mark with
      | some w => expandDocument capture w
      | none => pure (String.ofList mark)
    modify fun t => { t with tracing := false }
    let d := (← get).toProcess.descriptor? 2
    connect 2 output
    say (first ++ " ".intercalate words ++ "\n")
    connect 2 d

/-- Runs a builtin.  A fault of one that is not special ends no more than it. -/
def runBuiltin (name : String) (special : Bool) (body : Run Nat) : Run Unit := fun s =>
  let back (t : State) : State := { t with builtin := s.builtin, writeFault := none }
  match body { s with builtin := some name, writeFault := none } with
  | .ok status t =>
    match t.writeFault with
    | none => .ok () (back { t with status })
    | some _ =>
      match complain s!"{name}: I/O error" t with
      | .ok _ t => .ok () (back { t with status := status ||| 1 })
      | .error j t => .error j (back t)
  | .error .fault t => if special then .error .fault (back t) else .ok () (back t)
  | .error j t => .error j (back t)

/-- How deep functions may call each other. -/
def maxCalls : Nat := 1000

/-- Runs the body of a function with its arguments. -/
def callFunction (args : List String) (body : Run Unit) : Run Unit := do
  let s ← get
  if maxCalls ≤ s.calls then fail "Maximum function recursion depth (1000) reached"
  let back (t : State) : State :=
    { t with
      arguments := s.arguments, optionIndex := s.optionIndex, optionOffset := s.optionOffset,
      calls := s.calls, loops := s.loops }
  set { s with arguments := args, optionIndex := 1, optionOffset := none, calls := s.calls + 1,
               loops := 0 }
  fun s =>
    match body s with
    | .ok _ t => .ok () (back t)
    | .error (.back _) t => .ok () (back t)
    | .error j t => .error j (back t)

/-! ## Programs -/

/-- What is said about a program that cannot be run, and the status of that. -/
def programFault (f : IoFault) : String × Nat :=
  match f with
  | .noEntry => ("not found", 127)
  | .notADirectory => ("not found", 127)
  | .tooManyLinks => (f.description, 127)
  | .nameTooLong => (f.description, 127)
  | f => (f.description, 126)

/-- Loads the program at a path; a file that names no interpreter is taken for a script. -/
def State.load (s : State) (name path : String) : Except IoFault Loaded :=
  match loadProgram s.toProcess maxInterpreters name path with
  | .error .badExecutable => .ok ⟨"sh", "/bin/sh", [path]⟩
  | r => r

/-- A shell that has just been started. -/
def State.started (s : State) (name : String) (environment : List (String × String)) : State :=
  let p : Process := { s.toProcess with environment }
  let imported : List (String × Variable) :=
    (environment.filter fun v => isName v.1).map fun v =>
      (v.1, { value := some v.2, exported := true })
  let fresh : State :=
    { toProcess := p, name, vars := imported, shellId := s.nextId, nextId := s.nextId + 1,
      steps := s.steps }
  let put (exported : Bool) (s : State) (v : String × String) : State :=
    s.setVariable v.1 (some { value := some v.2, exported })
  let defaults : List (String × String) :=
    [("IFS", " \t\n"), ("OPTIND", "1"), ("PPID", toString s.shellId), ("PS1", "# "),
     ("PS2", "> "), ("PS4", "+ ")] ++
      (if (environment.lookup "PATH").isSome then []
       else [("PATH", ":".intercalate systemDirectories)])
  put true (defaults.foldl (put false) fresh) ("PWD", Builtin.workPath s)

/-- Runs a tool as a program of its own. -/
def runTool (tool : Tool) (environment : List (String × String)) (name : String)
    (args : List String) : Run ExitStatus := fun s =>
  let (status, p) := (Tool.run tool name args).run { s.toProcess with environment }
  .ok (.code (status % 256)) { s with files := p.files, handles := p.handles }

end BenchRoster.Shell
