/-
# Builtins for signals and programs

Signals are sent and trapped, and programs that were not waited for are waited for.
-/
import BenchRoster.Shell.Builtin.Basic
import BenchRoster.Shell.Signal

namespace BenchRoster.Shell

namespace Builtin

/-! ## Signals -/

/-- Writes or sets the commands for signals. -/
def trap : Builtin := fun args => do
  let (_, args) ← readOptions [] [] args
  match args with
  | [] =>
    let traps := (← get).traps.mergeSort fun a b => a.1 ≤ b.1
    put ("".intercalate (traps.map fun t => s!"trap -- {quote t.2} {Signal.name t.1}\n"))
    return 0
  | first :: more =>
    let plainNumber := first ≠ "" ∧ first.toList.all Char.isDigit
    let (action, names) : Option String × List String :=
      if more.isEmpty ∨ plainNumber then (none, args)
      else (if first = "-" then none else some first, more)
    let rec go : List String → Run Nat
      | [] => return 0
      | name :: names => do
        match Signal.number? name with
        | none =>
          say s!"trap: {name}: bad trap\n"
          return 1
        | some n =>
          modify fun s =>
            let others := s.traps.filter (·.1 != n)
            { s with traps := action.elim others fun a => (n, a) :: others }
          go names
    go names

/-- Sends a signal to the shell itself. -/
def signalSelf (n : Nat) : Run Unit := do
  let s ← get
  match (s.outerTraps.getD s.traps).lookup n with
  | some "" => return
  | some _ =>
    if s.outerTraps.isSome then modify fun s => { s with sent := s.sent ++ [n] }
    else modify fun s => { s with pending := s.pending ++ [n] }
  | none => if Signal.isFatal n then throw (.signal n true)

/-- Sends a signal to a program, and tells whether there is one. -/
def sendSignal (n target : Nat) : Run Bool := do
  let s ← get
  if target = s.shellId then
    signalSelf n
    return true
  else if (s.endings.lookup target).isSome then
    if Signal.isFatal n then
      let changed := s.endings.map fun e => if e.1 == target then (target, .signal n) else e
      modify fun s => { s with endings := changed }
    return true
  else return false

def usageOfKill : String :=
  "Usage: kill [-s sigspec | -signum | -sigspec] [pid | job]... or\nkill -l [exitstatus]"

def kill : Builtin := fun args => do
  let direct : Option (Nat × List String) :=
    match args with
    | a :: rest =>
      match a.toList with
      | '-' :: name => (Signal.number? (String.ofList name)).map fun n => (n, rest)
      | _ => none
    | [] => none
  let hyphen := (args.head?.map fun a => a.toList.head? == some '-').getD false
  let (signal, list, targets) ← (do
    match direct with
    | some (n, rest) => return (some n, false, rest)
    | none =>
      if !hyphen then return (none, false, args)
      let (options, rest) ← readOptions ['l'] ['s'] args
      let mut signal : Option Nat := none
      for (c, name) in options do
        if c = 's' then
          match Signal.number? name with
          | some n => signal := some n
          | none => fail s!"invalid signal number or name: {name}"
      return (signal, options.any (·.1 == 'l'), rest) : Run (Option Nat × Bool × List String))
  if list then
    if signal.isSome then fail usageOfKill
    match targets with
    | [] =>
      let names := (List.range (Signal.count - 1)).map fun n => Signal.name (n + 1) ++ "\n"
      put ("0\n" ++ "".intercalate names)
      return 0
    | a :: _ =>
      let n ← number a
      let n := if 128 < n then n - 128 else n
      if 0 < n ∧ n < Signal.count then
        put (Signal.name n ++ "\n")
        return 0
      else fail s!"invalid signal number or exit status: {a}"
  else
    if targets.isEmpty then fail usageOfKill
    let n := signal.getD 15
    let mut status := 0
    for t in targets do
      let found ← (do
        match t.toList with
        | '%' :: _ => fail s!"No such job: {t}"
        | '-' :: cs =>
          let _ ← number (String.ofList cs)
          return false
        | _ => sendSignal n (← number t) : Run Bool)
      if !found then
        complain "No such process\n"
        status := 1
    return status

/-! ## Programs that are not waited for -/

/-- The status of a program that has ended; what a signal has done is said. -/
def statusOf (e : ExitStatus) : Run Nat := do
  match e with
  | .code n => return n
  | .signal n =>
    if let some text := Signal.description? n then say (text ++ "\n")
    return 128 + n

/-- Takes the status of a program that was not waited for. -/
def takeEnding (id : Nat) : Run Nat := do
  let s ← get
  match s.endings.lookup id with
  | none => return 127
  | some e =>
    modify fun s => { s with endings := s.endings.filter (·.1 != id) }
    statusOf e

def wait : Builtin := fun args => do
  let (_, args) ← readOptions [] [] args
  if args.isEmpty then
    modify fun s => { s with endings := [] }
    return 0
  else
    args.foldlM (fun _ a => do
      if a.toList.head? = some '%' then fail s!"No such job: {a}"
      takeEnding (← number a)) 0

end Builtin

end BenchRoster.Shell
