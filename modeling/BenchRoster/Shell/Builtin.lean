/-
# The builtins by name

Here are the builtins that jump, and a table of all builtins but for those that run other commands.
-/
import BenchRoster.Shell.Builtin.Control
import BenchRoster.Shell.Builtin.Directory
import BenchRoster.Shell.Builtin.Meaning
import BenchRoster.Shell.Builtin.Permission
import BenchRoster.Shell.Builtin.Settings
import BenchRoster.Shell.Builtin.Transfer

namespace BenchRoster.Shell

namespace Builtin

/-! ## Limits and times -/

/-- Limits are never set. -/
def ulimit : Builtin := fun args => do
  let (_, args) ← readOptions "HSatfdscmlpnvwr".toList [] args
  if args.isEmpty then put "unlimited\n"
  return 0

/-- The time that was taken, which is never enough to be shown. -/
def times : Builtin := fun _ => do
  put "0m0.000000s 0m0.000000s\n0m0.000000s 0m0.000000s\n"
  return 0

/-- There are no jobs that could be gone on with. -/
def noJob : Builtin := fun _ => fail "No current job"

/-! ## Jumps -/

/-- Ends the shell, with the status that is given or the present one; in the command for a signal,
that is the one from before. -/
def exit : Builtin := fun args => do
  match args.head?, (← get).interrupted with
  | some a, _ => setStatus (← number a)
  | none, some status => setStatus status
  | none, none => pure ()
  throw .exit

/-- Ends a function or a script that was read in. -/
def back : Builtin := fun args => do
  if let some a := args.head? then setStatus (← number a)
  throw (.back args.head?.isSome)

/-- Leaves loops, or goes on with the next round of one. -/
def leave (again : Bool) : Builtin := fun args => do
  let count ← (args.head?.map number).getD (return 1)
  if count = 0 then failNumber (args.headD "")
  setStatus 0
  match min count (← get).loops with
  | 0 => return 0
  | n + 1 => throw (if again then .again n else .leave n)

/-! ## The table -/

/-- The builtins by name, but for those that run other commands. -/
def table : List (String × Builtin) :=
  [(":", fun _ => return 0), ("true", fun _ => return 0), ("false", fun _ => return 1),
   ("echo", echo), ("printf", printf), ("test", test),
   ("[", fun args =>
     if args.getLast? = some "]" then test args.dropLast else fail "missing ]"),
   ("read", read), ("cd", cd), ("chdir", cd), ("pwd", pwd), ("set", set), ("shift", shift),
   ("export", mark "export" (·.exported) fun v => { v with exported := true }),
   ("readonly", mark "readonly" (·.readonly) fun v => { v with readonly := true }),
   ("exit", exit), ("return", back), ("break", leave false), ("continue", leave true),
   ("unset", unset), ("local", localVariables), ("getopts", getopts), ("trap", trap),
   ("kill", kill), ("wait", wait), ("type", type), ("command", command), ("alias", setAlias),
   ("unalias", unalias), ("hash", hash), ("umask", umask), ("ulimit", ulimit), ("times", times),
   ("jobs", fun _ => return 0), ("fg", noJob), ("bg", noJob)]

end Builtin

end BenchRoster.Shell
