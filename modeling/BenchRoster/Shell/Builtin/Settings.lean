/-
# Builtins for the options and the arguments of the shell

Options are set by letters or by names, and arguments are set, shifted and gone through.
-/
import BenchRoster.Shell.Builtin.Variables

namespace BenchRoster.Shell

namespace Builtin

/-- Gives the shell other arguments. -/
def setArguments (args : List String) : Run Unit :=
  modify fun s => { s with arguments := args, optionIndex := 1, optionOffset := none }

/-- The names of the options in the order in which they are shown. -/
def shownOptions : List (String × Option Char) :=
  optionNames.map (fun o => (o.2, some o.1)) ++ [("nolog", none), ("debug", none)]

/-- Writes all options, for reading or as commands. -/
def putOptions (asCommands : Bool) : Run Unit := do
  let s ← get
  let line (o : String × Option Char) : String :=
    let on := (o.2.map s.has).getD false
    if asCommands then
      let sign := if on then "-" else "+"
      s!"set {sign}o {o.1}\n"
    else
      let padding := String.ofList (List.replicate (16 - o.1.length) ' ')
      let value := if on then "on" else "off"
      s!"{o.1}{padding}{value}\n"
  put ((if asCommands then "" else "Current option settings\n") ++
    "".intercalate (shownOptions.map line))

/-- Sets an option by its letter. -/
def setLetter (c : Char) (on : Bool) : Run Unit := do
  if optionNames.any (·.1 == c) then setOption c on
  else fail s!"Illegal option -{String.ofList [c]}"

/-- Sets an option by its name, or shows all. -/
def setNamed (name : Option String) (on : Bool) : Run Unit := do
  match name with
  | none => putOptions !on
  | some name =>
    match shownOptions.lookup name with
    | some (some c) => setOption c on
    | some none => return
    | none => fail s!"Illegal option -o {name}"

/-- What was read of the options of a shell. -/
structure Start where
  /-- The script is given as an argument. -/
  scripted : Bool := false
  /-- There was an argument that ends the options. -/
  ended : Bool := false
  arguments : List String

/-- Sets the options that letters name; `atStart` says that a shell is being started. -/
def setLetters (atStart on : Bool) : List Char → Start → Run Start
  | [], t => return t
  | 'c' :: cs, t =>
    if atStart then setLetters atStart on cs { t with scripted := true }
    else fail "Illegal option -c"
  | 'l' :: cs, t =>
    if atStart then setLetters atStart on cs t else fail "Illegal option -l"
  | 'o' :: cs, t => do
    setNamed t.arguments.head? on
    setLetters atStart on cs { t with arguments := t.arguments.tail }
  | c :: cs, t => do
    setLetter c on
    setLetters atStart on cs t

/-- Sets the options in front of the arguments. -/
def setOptions (atStart : Bool) : Nat → List String → Run Start
  | 0, args => return { arguments := args }
  | n + 1, args => do
    match args with
    | [] => return { arguments := [] }
    | a :: rest =>
      match a.toList with
      | ['-'] =>
        if !atStart then
          setOption 'x' false
          setOption 'v' false
        return { ended := true, arguments := rest }
      | ['-', '-'] =>
        if !atStart && rest.isEmpty then setArguments []
        return { ended := true, arguments := rest }
      | '-' :: cs => do
        let t ← setLetters atStart true cs { arguments := rest }
        let u ← setOptions atStart n t.arguments
        return { u with scripted := t.scripted || u.scripted }
      | '+' :: cs => do
        let t ← setLetters atStart false cs { arguments := rest }
        let u ← setOptions atStart n t.arguments
        return { u with scripted := t.scripted || u.scripted }
      | _ => return { arguments := args }

def set : Builtin := fun args => do
  if args.isEmpty then putVariables "" fun v => v.value.isSome
  else
    let t ← setOptions false (args.length + 1) args
    if !t.arguments.isEmpty then setArguments t.arguments
  return 0

def shift : Builtin := fun args => do
  let count ← (args.head?.map number).getD (return 1)
  let s ← get
  if s.arguments.length < count then fail "can't shift that many"
  setArguments (s.arguments.drop count)
  return 0

/-- The letter of an option in an argument, and what comes after it. -/
def nextLetter? (args : List String) (index : Nat) (offset : Option Nat) :
    Option (Char × List Char × Nat) :=
  let pending : List Char :=
    match offset with
    | some k => if 1 < index then ((args[index - 2]?).getD "").toList.drop k else []
    | none => []
  match pending with
  | c :: cs => some (c, cs, index)
  | [] =>
    match (args[index - 1]?).map String.toList with
    | some ('-' :: c :: cs) => if c = '-' ∧ cs = [] then none else some (c, cs, index + 1)
    | _ => none

/-- Takes the next option from arguments. -/
def getopts : Builtin := fun args => do
  match args with
  | spec :: var :: given =>
    let s ← get
    let args := if given.isEmpty then s.arguments else given
    let (index, offset) : Nat × Option Nat :=
      if args.length + 1 < s.optionIndex then (1, none) else (s.optionIndex, s.optionOffset)
    let quiet := spec.toList.head? == some ':'
    let finish (letter : Char) (index : Nat) (offset : Option Nat) : Run Unit := do
      assign "OPTIND" (toString index) false
      modify fun s => { s with optionIndex := index, optionOffset := offset }
      assign var (String.ofList [letter]) false
    match nextLetter? args index offset with
    | none =>
      let ended := offset.isNone ∧ args[index - 1]? = some "--"
      finish '?' (if ended then index + 1 else index) none
      return 1
    | some (c, cs, index) =>
      let here := ((args[index - 2]?).getD "").length - cs.length
      let offset := if cs.isEmpty then none else some here
      let known := spec.toList.dropWhile fun d => d != c || d == ':'
      match known with
      | [] =>
        if quiet then assign "OPTARG" (String.ofList [c]) false
        else
          say s!"Illegal option -{String.ofList [c]}\n"
          unsetVariable "OPTARG"
        finish '?' index offset
        return 0
      | _ :: ':' :: _ =>
        match cs, args[index - 1]? with
        | [], none =>
          if quiet then
            assign "OPTARG" (String.ofList [c]) false
            finish ':' index none
          else
            say s!"No arg for -{String.ofList [c]} option\n"
            unsetVariable "OPTARG"
            finish '?' index none
          return 0
        | [], some value =>
          assign "OPTARG" value false
          finish c (index + 1) none
          return 0
        | cs, _ =>
          assign "OPTARG" (String.ofList cs) false
          finish c index none
          return 0
      | _ =>
        assign "OPTARG" "" false
        finish c index offset
        return 0
  | _ => fail "Usage: getopts optstring var [arg...]"

end Builtin

end BenchRoster.Shell
