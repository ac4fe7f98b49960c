/-
# Running shell scripts

A script is read and run line by line on a `State`.  Commands that are joined by a bar run one after
the other, the first to its end, with its output as the input of the next; nothing they do can
tell this from running at the same time, unless the first has no end, in which case it is cut off.
Commands that are not waited for are run at once.
-/
import BenchRoster.Shell.Choice
import BenchRoster.Shell.Environment
import BenchRoster.Shell.Redirecting

namespace BenchRoster.Shell

mutual

/-- The output of a command, without the line feeds at its end. -/
def capture : Nat → Command → Run (List Char)
  | 0, _ => throw .exhausted
  | n + 1, c => do
    match c with
    | .nothing => return []
    | c =>
      let handle ← openPipe []
      let e ← inSubshell false (ending (runAtEnd n) do
        connect 1 (some ⟨handle, false, true⟩)
        run n false c)
      let status ← Builtin.statusOf e
      modify fun s => { s with captured := status }
      let bytes := ((← get).pipeContent handle).bytes
      return dropFinalNewlines (Octets.ofBytes (bytes.filter (· != 0)))

/-- Runs a command.  Where its status is `tested`, a bad one does not end the shell. -/
def run : Nat → Bool → Command → Run Unit
  | 0, _, _ => throw .exhausted
  | n + 1, tested, c => do
    if (← get).has 'n' then return
    match c with
    | .nothing => return
    | .simple line assignments words redirections =>
      tick
      modify fun s => { s with line, captured := 0 }
      runSimple n tested assignments words redirections
      runTraps n
      checkStatus tested
    | .sequence a b =>
      run n tested a
      run n tested b
    | .both a b =>
      run n true a
      if (← get).status = 0 then run n tested b
    | .either a b =>
      run n true a
      if (← get).status ≠ 0 then run n tested b
    | .negate a =>
      run n true a
      setStatus (if (← get).status = 0 then 1 else 0)
    | .pipeline commands =>
      runPipeline n tested none commands
      runTraps n
      checkStatus tested
    | .branch condition yes no =>
      run n true condition
      if (← get).status = 0 then run n tested yes
      else
        match no with
        | .nothing => setStatus 0
        | no => run n tested no
    | .loop expected condition body =>
      inLoop (repeatBody n tested expected condition body 0)
      runTraps n
    | .forEach line name words body =>
      modify fun s => { s with line }
      let values ← expandWords (capture n) words
      if values.isEmpty then setStatus 0
      else inLoop (runEach n tested name values body)
      runTraps n
    | .select line word arms =>
      modify fun s => { s with line }
      let text ← expandText (capture n) word
      runArm n tested text.toList arms
    | .subshell line body redirections =>
      modify fun s => { s with line }
      let e ← inSubshell false (ending (runAtEnd n) do
        if ← redirectAll (capture n) redirections then run n tested body
        else throw .exit)
      setStatus (← Builtin.statusOf e)
      runTraps n
      checkStatus tested
    | .background line body =>
      modify fun s => { s with line }
      let id := (← get).nextId
      modify fun s => { s with nextId := id + 1 }
      let handle ← inProcess fun p => p.addHandle .null
      let e ← inSubshell true (ending (runAtEnd n) do
        connect 0 (some ⟨handle, true, false⟩)
        run n false body)
      modify fun s =>
        { s with lastBackground := some id, endings := (id, e) :: s.endings, status := 0 }
    | .redirected line body redirections =>
      modify fun s => { s with line }
      keepingDescriptors do
        if ← redirectAll (capture n) redirections then run n tested body
        else
          setStatus 2
          checkStatus tested
    | .define line name body =>
      modify fun s =>
        { s with functions := (name, line, body) :: s.functions.filter (·.1 != name), status := 0 }

/-- Repeats a body as long as a condition has the expected outcome; the status is that of the last
round. -/
def repeatBody : Nat → Bool → Bool → Command → Command → Nat → Run Unit
  | 0, _, _, _, _, _ => throw .exhausted
  | n + 1, tested, expected, condition, body, status => fun s =>
    match (tick *> run n true condition) s with
    | .error (.leave 0) t => .ok () { t with status }
    | .error (.leave (k + 1)) t => .error (.leave k) t
    | .error (.again 0) t => repeatBody n tested expected condition body status t
    | .error (.again (k + 1)) t => .error (.again k) t
    | .error j t => .error j t
    | .ok _ t =>
      if (t.status == 0) != expected then .ok () { t with status }
      else
        match run n tested body t with
        | .ok _ t => repeatBody n tested expected condition body t.status t
        | .error (.leave 0) t => .ok () t
        | .error (.leave (k + 1)) t => .error (.leave k) t
        | .error (.again 0) t => repeatBody n tested expected condition body t.status t
        | .error (.again (k + 1)) t => .error (.again k) t
        | .error j t => .error j t

/-- Runs a body for each value of a variable. -/
def runEach : Nat → Bool → String → List String → Command → Run Unit
  | 0, _, _, _, _ => throw .exhausted
  | _ + 1, _, _, [], _ => return
  | n + 1, tested, name, v :: vs, body => fun s =>
    match (do assign name v false; run n tested body : Run Unit) s with
    | .ok _ t => runEach n tested name vs body t
    | .error (.leave 0) t => .ok () t
    | .error (.leave (k + 1)) t => .error (.leave k) t
    | .error (.again 0) t => runEach n tested name vs body t
    | .error (.again (k + 1)) t => .error (.again k) t
    | .error j t => .error j t

/-- Runs the first arm with a pattern that covers the text. -/
def runArm : Nat → Bool → List Char → List Arm → Run Unit
  | 0, _, _, _ => throw .exhausted
  | _ + 1, _, _, [] => setStatus 0
  | n + 1, tested, text, .mk patterns body :: arms => do
    if ← covers n text patterns then
      match body with
      | .nothing => setStatus 0
      | body => run n tested body
    else runArm n tested text arms

/-- Whether some pattern covers the text. -/
def covers : Nat → List Char → List Word → Run Bool
  | 0, _, _ => throw .exhausted
  | _ + 1, _, [] => return false
  | n + 1, text, w :: ws => do
    if Glob.covers (← expandPattern (capture n) w) text then return true
    else covers n text ws

/-- Runs commands each of which reads what the one before writes. -/
def runPipeline : Nat → Bool → Option Connection → List Command → Run Unit
  | 0, _, _, _ => throw .exhausted
  | _ + 1, _, _, [] => return
  | n + 1, tested, input, c :: cs => do
    let connectInput : Run Unit :=
      match input with
      | some d => connect 0 (some d)
      | none => return
    match cs with
    | [] =>
      let e ← inSubshell false (ending (runAtEnd n) do
        connectInput
        run n tested c)
      setStatus (← Builtin.statusOf e)
    | cs =>
      let handle ← openPipe []
      let e ← inSubshell true (ending (runAtEnd n) do
        connectInput
        connect 1 (some ⟨handle, false, true⟩)
        run n tested c)
      discard (Builtin.statusOf e)
      runPipeline n tested (some ⟨handle, true, false⟩) cs

/-- Runs a command without parts. -/
def runSimple : Nat → Bool → List (String × Word) → List Word → List (Redirection Word) → Run Unit
  | 0, _, _, _, _ => throw .exhausted
  | n + 1, tested, assignments, words, redirections => do
    let fields ← expandCommand (capture n) words
    let s ← get
    let choice := s.choose s.searchPath true true fields.length fields
    let output := s.toProcess.descriptor? 2
    let isLocal := !fields.isEmpty && !choice.special
    let exports := choice.name = "exec" ∧ choice.arguments ≠ []
    let body : Run Unit := do
      if !(← redirectAll (capture n) redirections) then
        setStatus 2
        if choice.special && !fields.isEmpty then throw .fault
      else
        let shown ← assignments.mapM fun (name, w) => do
          let value ← expandAssigned (capture n) w
          if isLocal then makeLocal name
          assign name value (isLocal || exports)
          return s!"{name}={value}"
        trace (capture n) output (shown ++ fields)
        if fields.isEmpty then modify fun s => { s with status := s.captured }
        else carryOut n tested choice
    let framed := if isLocal then keepingVariables body else body
    -- the redirections of `exec` stay in force
    if choice.name = "exec" ∧ !fields.isEmpty then framed else keepingDescriptors framed

/-- Runs what a simple command has chosen. -/
def carryOut : Nat → Bool → Choice → Run Unit
  | 0, _, _ => throw .exhausted
  | n + 1, tested, c => do
    match c.meaning with
    | .unknown f =>
      complain s!"{c.name}: {(programFault f).1}"
      setStatus 127
    | .function _ body => callFunction c.arguments (run n tested body)
    | .program path known =>
      if !known && path ≠ c.name then
        modify fun s => { s with tracked := s.tracked ++ [(c.name, path)] }
      let s ← get
      match s.load c.name path with
      | .error f =>
        let (text, status) := programFault f
        complain s!"{c.name}: {text}"
        setStatus status
      | .ok l =>
        let e ← runLoaded n s.exported l c.arguments
        setStatus (← Builtin.statusOf e)
    | _ =>
      let body : Run Nat :=
        match c.name with
        | "eval" => do
          let (_, words) ← Builtin.readOptions [] [] c.arguments
          runText n tested (" ".intercalate words).toList
          return (← get).status
        | "." => readIn n c.arguments
        | "exec" => replace n c.arguments
        | name => ((Builtin.table.lookup name).getD fun _ => return 127) c.arguments
      runBuiltin c.name c.special body

/-- Reads in a script and runs it. -/
def readIn : Nat → List String → Run Nat
  | 0, _ => throw .exhausted
  | n + 1, args => do
    let (_, args) ← Builtin.readOptions [] [] args
    match args with
    | [] => return 0
    | name :: _ =>
      let s ← get
      let path ←
        if name.toList.contains '/' then pure name
        else
          let found? := s.searchPath.find? fun d =>
            match s.toProcess.find (Path.join d name) with
            | .ok (_, e) => e.isFile
            | .error _ => false
          match found? with
          | some d => pure (Path.join d name)
          | none => fail s!"{name}: not found"
      let d ← openFor .input path
      let bytes :=
        match (← get).toProcess.source d with
        | .ok source => source.bytes
        | .error _ => []
      modify fun s => { s with builtin := some path }
      let cs := Octets.ofBytes (bytes.filter (· != 0))
      fun s =>
        match runText n false cs s with
        | .ok _ t => .ok t.status t
        | .error (.back _) t => .ok t.status t
        | .error j t => .error j t

/-- Runs a program in place of the shell. -/
def replace : Nat → List String → Run Nat
  | 0, _ => throw .exhausted
  | n + 1, args => do
    let (_, args) ← Builtin.readOptions [] [] args
    match args with
    | [] => return 0
    | name :: rest =>
      let s ← get
      let found : Except IoFault Loaded :=
        if name.toList.contains '/' then s.load name name
        else (Builtin.searchProgram s s.searchPath name).bind (s.load name)
      match found with
      | .error f =>
        let (text, status) := programFault f
        complain s!"{name}: {text}"
        setStatus status
        throw .exit
      | .ok l =>
        let e ← runLoaded n s.exported l rest
        modify fun s => { s with traps := [] }
        match e with
        | .code status =>
          setStatus status
          throw .exit
        | .signal k => throw (.signal k false)

/-- Runs the text of a script, with lines of its own. -/
def runText : Nat → Bool → List Char → Run Unit
  | 0, _, _ => throw .exhausted
  | n + 1, tested, cs => do
    let before := (← get).lineRead
    let ran ← deeper (runLines n tested { rest := cs } false)
    if !ran then setStatus 0
    modify fun s => { s with lineRead := before }

/-- Reads lines and runs their commands; the answer is whether there were any. -/
def runLines : Nat → Bool → Input → Bool → Run Bool
  | 0, _, _, _ => throw .exhausted
  | n + 1, tested, input, ran => do
    tick
    match readLine { input with aliases := (← get).aliases } with
    | .error e _ =>
      modify fun s => { s with line := e.line }
      fail e.message
    | .ok command input' =>
      modify fun s => { s with lineRead := input'.line }
      if (← get).has 'v' then
        let taken := input.rest.length - input'.rest.length
        say (String.ofList (input.rest.take taken))
      match command with
      | none => return ran
      | some .nothing => if input'.isAtEnd then return ran else runLines n tested input' ran
      | some c =>
        run n tested c
        runLines n tested input' true

/-- Runs the commands for signals that have come.  The status stays what it was before. -/
def runTraps : Nat → Run Unit
  | 0 => throw .exhausted
  | n + 1 => do
    let s ← get
    match s.pending.mergeSort with
    | [] => return
    | signal :: later =>
      set { s with pending := later.filter (· != signal), interrupted := some s.status }
      match s.traps.lookup signal with
      | none => return
      | some action =>
        fun t =>
          let back (u : State) : State :=
            { u with status := s.status, interrupted := s.interrupted }
          match runText n false action.toList t with
          | .ok _ u => .ok () (back u)
          | .error (.back false) u => .error (.back false) (back u)
          | .error j u => .error j { u with interrupted := s.interrupted }
      runTraps n

/-- Runs the command for the end of the shell, once. -/
def runAtEnd : Nat → Run Unit
  | 0 => throw .exhausted
  | n + 1 => do
    let s ← get
    match s.traps.lookup 0 with
    | none => return
    | some action =>
      set { s with
            traps := s.traps.filter (·.1 != 0), loops := 0, builtin := none,
            interrupted := some s.status }
      fun t =>
        match runText n false action.toList t with
        | .ok _ u => .ok () { u with status := s.status }
        | .error (.back _) u => .ok () { u with status := s.status }
        | .error j u => .error j u

/-- Runs a program of the system as a program of its own. -/
def runLoaded : Nat → List (String × String) → Loaded → List String → Run ExitStatus
  | 0, _, _, _ => throw .exhausted
  | n + 1, environment, l, args => do
    let args := l.leading ++ args
    if l.program = "sh" ∨ l.program = "dash" then
      let s ← get
      inShell (s.started l.name environment) (ending (runAtEnd n) (runShell n args))
    else if l.program = "env" then
      match Environment.read l.name environment args with
      | .error (text, status) =>
        say text
        return .code status
      | .ok wanted =>
        match wanted.command with
        | [] =>
          let line (v : String × String) : String := s!"{v.1}={v.2}{wanted.lineEnd}"
          put ("".intercalate (wanted.environment.map line))
          return .code 0
        | name :: rest =>
          let s ← get
          match findProgram s.toProcess wanted.directories name with
          | .ok l => runLoaded n wanted.environment l rest
          | .error f =>
            let (text, status) := wanted.failure l.name name f
            say text
            return .code status
    else
      match Tool.table.lookup l.program with
      | some tool => runTool tool environment l.name args
      | none => return .code 0

/-- Runs a shell with its arguments: the text of a script, a file, or its input. -/
def runShell : Nat → List String → Run Unit
  | 0, _ => throw .exhausted
  | n + 1, args => do
    let start ← Builtin.setOptions true (args.length + 1) args
    match start.scripted, start.arguments with
    | true, [] => fail "-c requires an argument"
    | true, text :: rest =>
      modify fun s => { s with name := rest.headD s.name, arguments := rest.tail }
      runText n false text.toList
    | false, args =>
      let s ← get
      let source ←
        match s.has 's', args with
        | false, path :: rest => do
          let d ← openFor .input path
          set { (← get) with name := path, arguments := rest }
          pure ((← get).toProcess.source d)
        | _, args => do
          set { s with arguments := args, options := 's' :: s.options.filter (· != 's') }
          inProcess fun p => p.readAll 0
      let bytes :=
        match source with
        | .ok source => source.bytes
        | .error _ => []
      discard (runLines n false { rest := Octets.ofBytes (bytes.filter (· != 0)) } false)

end

/-! ## Programs as a whole -/

/-- The number of the first shell. -/
def firstShell : Nat := 4242

/-- The steps that a script may take. -/
def maxSteps : Nat := 4000000

/-- How deep commands may be nested. -/
def maxDepth : Nat := 1000000000

/-- Runs a program with its arguments, and answers how it ended and the process afterwards. -/
def execute (p : Process) (l : Loaded) (args : List String) : ExitStatus × Process :=
  let start : State :=
    { toProcess := p, shellId := firstShell - 1, nextId := firstShell, steps := maxSteps }
  match runLoaded maxDepth p.environment l args start with
  | .ok e s => (e, s.toProcess)
  | .error (.signal k _) s => (.signal k, s.toProcess)
  | .error _ s => (.code (s.status % 256), s.toProcess)

end BenchRoster.Shell
