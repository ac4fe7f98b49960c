/-
# What names of commands stand for

A name stands for a builtin, a function, or a program in the search path.  Builtins tell about that,
and keep other names and the programs that were found.
-/
import BenchRoster.Shell.Builtin.Basic
import BenchRoster.Shell.Program
import BenchRoster.Shell.Token

namespace BenchRoster.Shell

namespace Builtin

/-- The builtins that are not special. -/
def regular : List String :=
  ["[", "alias", "bg", "cd", "chdir", "command", "echo", "false", "fg", "getopts", "hash", "jobs",
   "kill", "printf", "pwd", "read", "test", "true", "type", "ulimit", "umask", "unalias", "wait"]

/-- What the name of a command stands for. -/
inductive Meaning where
  | special
  | function (line : Nat) (body : Command)
  | regular
  /-- A program, and whether it was found before. -/
  | program (path : String) (known : Bool)
  | unknown (fault : IoFault)

/-- Looks for a program in the search path; the answer names the last fault that tells something. -/
def searchProgram (s : State) (directories : List String) (name : String) :
    Except IoFault String :=
  let rec go (fault : IoFault) : List String → Except IoFault String
    | [] => .error fault
    | d :: ds =>
      let path := Path.join d name
      match s.toProcess.find path with
      | .ok (_, e) => if e.isExecutable then .ok path else go .permissionDenied ds
      | .error .noEntry => go fault ds
      | .error .notADirectory => go fault ds
      | .error f => go f ds
  go .noEntry directories

/-- What a name stands for; functions may be passed over. -/
def meaningOf (s : State) (directories : List String) (functions : Bool) (name : String) :
    Meaning :=
  if name.toList.contains '/' then .program name false
  else if specialBuiltins.contains name then .special
  else
    match if functions then s.functions.lookup name else none with
    | some (line, body) => .function line body
    | none =>
      if regular.contains name then .regular
      else
        match s.tracked.lookup name with
        | some path => .program path true
        | none =>
          match searchProgram s directories name with
          | .ok path => .program path false
          | .error f => .unknown f

/-- Says what names stand for, at length or as they would be written. -/
def describe (verbose : Bool) (name : String) : Run Nat := do
  let s ← get
  let found (long short : String) : Run Nat := do
    put (if verbose then s!"{name}{long}\n" else s!"{short}\n")
    return 0
  let missing : Run Nat := do
    if verbose then put s!"{name}: not found\n"
    return 127
  if keywords.contains name then found " is a shell keyword" name
  else
    match s.aliases.lookup name with
    | some text => found s!" is an alias for {text}" s!"alias {name}={quote text}"
    | none =>
      match meaningOf s s.searchPath true name with
      | .special => found " is a special shell builtin" name
      | .regular => found " is a shell builtin" name
      | .function _ _ => found " is a shell function" name
      | .program path true => found s!" is a tracked alias for {path}" path
      | .program path false =>
        match s.toProcess.find path with
        | .ok _ =>
          if path ≠ name then modify fun s => { s with tracked := s.tracked ++ [(name, path)] }
          found s!" is {path}" path
        | .error _ => missing
      | .unknown _ => missing

def type : Builtin := fun args => do
  let (_, args) ← readOptions [] [] args
  args.foldlM (fun status a => do return max status (← describe true a)) 0

/-- Says what a name stands for. -/
def command : Builtin := fun args => do
  let (options, args) ← readOptions ['p', 'v', 'V'] [] args
  match options.filter (·.1 != 'p') with
  | [] => return 0
  | os =>
    match args with
    | [] => return 0
    | a :: _ => describe (os.any (·.1 == 'V')) a

/-- Writes or sets other names. -/
def setAlias : Builtin := fun args => do
  let s ← get
  let line (a : String × String) : String := s!"{a.1}={quote a.2}\n"
  if args.isEmpty then
    put ("".intercalate ((s.aliases.mergeSort fun a b => a.1 ≤ b.1).map line))
    return 0
  else
    args.foldlM (fun status a => do
      let name := String.ofList (a.toList.takeWhile (· != '='))
      if name.length < a.length ∧ name ≠ "" then
        let text := String.ofList (a.toList.drop (name.length + 1))
        modify fun s => { s with aliases := (name, text) :: s.aliases.filter (·.1 != name) }
        return status
      else
        match (← get).aliases.lookup a with
        | some text =>
          put (line (a, text))
          return status
        | none =>
          say s!"alias: {a} not found\n"
          return 1) 0

def unalias : Builtin := fun args => do
  let (options, args) ← readOptions ['a'] [] args
  if !options.isEmpty then
    modify fun s => { s with aliases := [] }
    return 0
  else
    args.foldlM (fun status a => do
      if ((← get).aliases.lookup a).isSome then
        modify fun s => { s with aliases := s.aliases.filter (·.1 != a) }
        return status
      else
        say s!"unalias: {a} not found\n"
        return 1) 0

/-- Writes, forgets or looks up programs that were found. -/
def hash : Builtin := fun args => do
  let (options, args) ← readOptions ['r', 'v'] [] args
  if options.any (·.1 == 'r') then
    modify fun s => { s with tracked := [] }
    return 0
  else if args.isEmpty then
    put ("".intercalate ((← get).tracked.map fun t => t.2 ++ "\n"))
    return 0
  else
    args.foldlM (fun status a => do
      let s ← get
      match meaningOf s s.searchPath true a with
      | .program path _ =>
        if !a.toList.contains '/' then
          modify fun s => { s with tracked := s.tracked.filter (·.1 != a) ++ [(a, path)] }
        return status
      | .unknown _ =>
        complain s!"{a}: not found"
        return 1
      | _ => return status) 0

end Builtin

end BenchRoster.Shell
