/-
# Builtins for the working directory

Going to another directory changes the place that paths are looked up from, and two variables.
-/
import BenchRoster.Shell.Builtin.Basic

namespace BenchRoster.Shell

namespace Builtin

/-- The working directory in octets. -/
def workPath (s : State) : String := Octets.ofText s.toProcess.workPath

/-- Goes to a directory, if there is one. -/
def enterDirectory? (path : String) : Run Bool := do
  let s ← get
  match s.toProcess.find path with
  | .ok (place, .directory) =>
    let before := workPath s
    let s := { s with workDir := place }
    let put (s : State) (name value : String) : State :=
      let v := (s.known? name).getD {}
      s.setVariable name (some { v with value := some value, exported := true })
    EStateM.set (put (put s "OLDPWD" before) "PWD" (workPath s))
    return true
  | _ => return false

/-- Directories in which `cd` looks for another one; nothing stands for the present one. -/
def cdPath (s : State) (path : String) : List String :=
  let direct : Bool :=
    match path.toList with
    | '/' :: _ => true
    | ['.'] => true
    | '.' :: '/' :: _ => true
    | ['.', '.'] => true
    | '.' :: '.' :: '/' :: _ => true
    | _ => false
  if direct then [""] else (((s.valueOf? "CDPATH").map (·.splitOn ":")).getD [""]) ++ [""]

def cd : Builtin := fun args => do
  let (_, args) ← readOptions ['L', 'P'] [] args
  let s ← get
  let (path, shown) : String × Bool :=
    match args with
    | [] => ((s.valueOf? "HOME").getD "", false)
    | "-" :: _ => ((s.valueOf? "OLDPWD").getD "", true)
    | a :: _ => (a, false)
  let rec go : List String → Run Bool
    | [] => fail s!"can't cd to {path}"
    | d :: ds => do
      if ← enterDirectory? (Path.join d (if path = "" then "." else path)) then return d ≠ ""
      else go ds
  let found ← go (cdPath s path)
  if shown || found then put (workPath (← get) ++ "\n")
  return 0

def pwd : Builtin := fun args => do
  let _ ← readOptions ['L', 'P'] [] args
  put (workPath (← get) ++ "\n")
  return 0

end Builtin

end BenchRoster.Shell
