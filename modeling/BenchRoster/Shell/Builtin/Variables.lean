/-
# Builtins for variables

Variables are marked, shown and forgotten, and those of a function are made.
-/
import BenchRoster.Shell.Builtin.Basic

namespace BenchRoster.Shell

namespace Builtin

/-- A name in front of text. -/
def nameIn (text : String) : String :=
  match text.toList with
  | c :: cs => if isNameStart c then String.ofList (c :: cs.takeWhile isNameChar) else ""
  | [] => ""

/-- Splits `name=value`; there may be no value. -/
def splitAssignment (text : String) : Run (String × Option String) := do
  let name := nameIn text
  match text.toList.drop name.length, name with
  | [], name => if name = "" then fail s!"{text}: bad variable name" else return (name, none)
  | '=' :: value, name =>
    if name = "" then fail ": bad variable name" else return (name, some (String.ofList value))
  | _, _ =>
    let whole := String.ofList (text.toList.takeWhile (· != '='))
    fail s!"{whole}: bad variable name"

/-- Writes the variables that are chosen, in order, with a word before each. -/
def putVariables (first : String) (chosen : Variable → Bool) : Run Unit := do
  let all := ((← get).vars.filter fun v => chosen v.2).mergeSort fun a b => a.1 ≤ b.1
  let line (v : String × Variable) : String :=
    match v.2.value with
    | some value => s!"{first}{v.1}={quote value}\n"
    | none => s!"{first}{v.1}\n"
  put ("".intercalate (all.map line))

/-- Marks variables, and gives them values where there are any. -/
def mark (word : String) (chosen : Variable → Bool) (set : Variable → Variable) : Builtin :=
  fun args => do
    let (options, names) ← readOptions ['p'] [] args
    if !options.isEmpty || names.isEmpty then putVariables (word ++ " ") chosen
    else
      names.forM fun a => do
        let (name, value) ← splitAssignment a
        if let some v := value then assign name v false
        modify fun s => s.setVariable name (some (set ((s.known? name).getD {})))
    return 0

/-- Forgets a variable. -/
def unsetVariable (name : String) : Run Unit := do
  let (name, _) ← splitAssignment name
  let s ← get
  if ((s.known? name).map (·.readonly)).getD false then fail s!"{name}: is read only"
  modify fun s => s.setVariable name none

def unset : Builtin := fun args => do
  let (options, names) ← readOptions ['v', 'f'] [] args
  names.forM fun name => do
    if (options.getLast?.map (·.1)) = some 'f' then
      modify fun s => { s with functions := s.functions.filter (·.1 != name) }
    else unsetVariable name
  return 0

/-- Makes variables of a function, which are forgotten at its end. -/
def localVariables : Builtin := fun args => do
  if (← get).locals.isEmpty then fail "not in a function"
  args.forM fun a => do
    if a = "-" then makeLocal "-"
    else
      let (name, value) ← splitAssignment a
      makeLocal name
      match value with
      | some v => assign name v false
      | none =>
        modify fun s =>
          if (s.known? name).isSome then s else s.setVariable name (some {})
  return 0

end Builtin

end BenchRoster.Shell
