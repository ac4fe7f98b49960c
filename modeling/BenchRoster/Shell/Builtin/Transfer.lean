/-
# Builtins for input and output

Text is written, a line is read into variables, and conditions are tested.
-/
import BenchRoster.Shell.Builtin.Variables
import BenchRoster.Shell.Condition
import BenchRoster.Shell.Fields
import BenchRoster.Tool.Echo

namespace BenchRoster.Shell

namespace Builtin

/-- Writes an argument list, with escapes resolved. -/
def echo : Builtin := fun args => do
  put (String.ofList (Tool.Echo.shell args))
  return 0

/-- Writes arguments by a format. -/
def printf : Builtin := fun args => do
  let (_, args) ← readOptions [] [] args
  match args with
  | [] => fail "usage: printf format [arg ...]"
  | format :: args =>
    let o := Tool.Format.run .shell format args
    -- what is written comes behind all complaints
    o.complaints.forM complain
    o.failure.forM complain
    put (String.ofList o.written)
    if o.failure.isSome then
      setStatus 2
      throw .fault
    return if o.wrong then 1 else 0

/-- Reads octets up to a line feed; a backslash makes the next octet an ordinary one, or joins the
next line.  The answer also tells whether there was a line feed. -/
def readMarked (raw : Bool) : Nat → Run (Marked × Bool)
  | 0 => return ([], false)
  | n + 1 => do
    match ← inProcess fun p => p.readLine 0 with
    | .error _ => return ([], false)
    | .ok (bytes, ended) =>
      let cs := Octets.ofBytes (bytes.filter (· != 0))
      if raw then return (cs.map fun c => (c, false), ended)
      else
        let rec go : List Char → Marked × Bool
          | ['\\'] => ([], true)
          | '\\' :: c :: cs => ((c, true) :: (go cs).1, (go cs).2)
          | c :: cs => ((c, false) :: (go cs).1, (go cs).2)
          | [] => ([], false)
        let (line, joined) := go cs
        if joined ∧ ended then
          let (more, ended) ← readMarked raw n
          return (line ++ more, ended)
        else return (line, ended)

def read : Builtin := fun args => do
  let (options, names) ← readOptions ['r'] ['p'] args
  if names.isEmpty then fail "arg count"
  let lines :=
    match (← get).toProcess.input 0 with
    | .ok source => source.bytes.count 10 + 1
    | .error _ => 1
  let (line, ended) ← readMarked (options.any (·.1 == 'r')) lines
  let values := lineFields (← get).separators names.length line
  (names.zip values).forM fun (name, value) => do
    let (name, _) ← splitAssignment name
    assign name value false
  return if ended then 0 else 1

def test (args : List String) : Run Nat := do
  match Condition.holds (← get).toProcess args with
  | .ok b => return if b then 0 else 1
  | .error text => fail text

end Builtin

end BenchRoster.Shell
