/-
# Arguments of the command line

The arguments are options, the name of a command, and the options and values of that command.  An
option is given at most once; the value of an option is the next argument, unless that one looks
like an option, or stands behind an equals sign or right behind a one-letter option.
-/

namespace BenchRoster.CommandLine

/-- What an option does. -/
inductive OptionKind where
  | flag
  | value
  | version
  | help
deriving DecidableEq, Repr

/-- An option with its long name and, if it has one, its letter. -/
structure OptionSpec where
  name : String
  letter : Option Char := none
  kind : OptionKind := .flag
deriving DecidableEq, Repr

/-- Why reading ends before a command is known. -/
inductive Stop where
  /-- The arguments are wrong. -/
  | usage
  | version
  | help
deriving DecidableEq, Repr

/-- What has been read: options with their values, and the other arguments. -/
structure Found where
  options : List (String × String) := []
  values : List String := []
deriving Repr

namespace Found

def has (f : Found) (name : String) : Bool := (f.options.lookup name).isSome

def value? (f : Found) (name : String) : Option String := f.options.lookup name

/-- Adds an option, which must not have been given before. -/
def addOption (f : Found) (name value : String) : Except Stop Found :=
  if f.has name then .error .usage else .ok { f with options := f.options ++ [(name, value)] }

end Found

/-- The argument looks like options: a hyphen with something behind it. -/
def isOption (a : String) : Bool :=
  match a.toList with
  | '-' :: _ :: _ => true
  | _ => false

/-- Reads one-letter options; the last one may wait for its value. -/
def readLetters (specs : List OptionSpec) :
    List Char → Found → Except Stop (Found × Option OptionSpec)
  | [], f => .ok (f, none)
  | c :: cs, f =>
    match specs.find? fun s => s.letter == some c with
    | none => .error .usage
    | some s =>
      match s.kind with
      | .version => .error .version
      | .help => .error .help
      | .flag =>
        match f.addOption s.name "" with
        | .ok f => readLetters specs cs f
        | .error e => .error e
      | .value =>
        match cs with
        | [] => .ok (f, some s)
        | '=' :: v => (f.addOption s.name (String.ofList v)).map fun f => (f, none)
        | v => (f.addOption s.name (String.ofList v)).map fun f => (f, none)

/-- Reads an option with its long name; it may wait for its value. -/
def readLong (specs : List OptionSpec) (text : List Char) (f : Found) :
    Except Stop (Found × Option OptionSpec) :=
  let name := String.ofList (text.takeWhile (· != '='))
  let attached : Option String :=
    match text.dropWhile (· != '=') with
    | '=' :: v => some (String.ofList v)
    | _ => none
  match specs.find? fun s => s.name == name with
  | none => .error .usage
  | some s =>
    match s.kind, attached with
    | .value, some v => (f.addOption s.name v).map fun f => (f, none)
    | .value, none => .ok (f, some s)
    | _, some _ => .error .usage
    | .flag, none => (f.addOption s.name "").map fun f => (f, none)
    | .version, none => .error .version
    | .help, none => .error .help

/-- Reads one argument that looks like options. -/
def readOption (specs : List OptionSpec) (a : String) (f : Found) :
    Except Stop (Found × Option OptionSpec) :=
  match a.toList with
  | '-' :: '-' :: text => readLong specs text f
  | '-' :: letters => readLetters specs letters f
  | _ => .error .usage

/-- Reads arguments.  With `leading` they are read up to the first one that is no option, and
otherwise to their end, with at most so many values. -/
def readArguments (specs : List OptionSpec) (leading : Bool) (most : Nat) :
    List String → Found → Except Stop (Found × List String)
  | [], f => .ok (f, [])
  | a :: rest, f =>
    if a = "--" then
      let values := f.values ++ rest
      if leading ∨ most < values.length then .error .usage else .ok ({ f with values }, [])
    else if isOption a then
      match readOption specs a f with
      | .error e => .error e
      | .ok (f, none) => readArguments specs leading most rest f
      | .ok (f, some s) =>
        match rest with
        | v :: rest =>
          if isOption v then .error .usage
          else
            match f.addOption s.name v with
            | .ok f => readArguments specs leading most rest f
            | .error e => .error e
        | [] => .error .usage
    else if leading then .ok (f, a :: rest)
    else if most ≤ f.values.length then .error .usage
    else readArguments specs leading most rest { f with values := f.values ++ [a] }

/-- What is asked for. -/
inductive Command where
  | list
  | check (invoke strict : Bool)
  | validate (file : String)
  | workload (raw : Bool)
  | run (filter : Option String) (quick : Bool)
deriving DecidableEq, Repr

/-- A command with the configuration file that it is to use. -/
structure Request where
  config : Option String
  command : Command
deriving DecidableEq, Repr

def helpOption : OptionSpec := ⟨"help", some 'h', .help⟩

/-- The options before the command. -/
def generalOptions : List OptionSpec :=
  [⟨"config", some 'c', .value⟩, ⟨"verbose", some 'v', .flag⟩, helpOption,
   ⟨"version", some 'V', .version⟩]

/-- The options of a command. -/
def commandOptions? (name : String) : Option (List OptionSpec) :=
  match name with
  | "list" => some [helpOption]
  | "check" => some [⟨"invoke", some 'i', .flag⟩, ⟨"strict", some 's', .flag⟩, helpOption]
  | "validate" => some [helpOption]
  | "workload" => some [⟨"raw", none, .flag⟩, helpOption]
  | "run" => some [⟨"filter", some 'f', .value⟩, ⟨"quick", some 'q', .flag⟩, helpOption]
  | _ => none

/-- The command that the arguments of a command describe. -/
def commandOf? (name : String) (f : Found) : Option Command :=
  match name, f.values with
  | "list", [] => some .list
  | "check", [] => some (.check (f.has "invoke") (f.has "strict"))
  | "validate", [file] => some (.validate file)
  | "workload", [] => some (.workload (f.has "raw"))
  | "run", [] => some (.run (f.value? "filter") (f.has "quick"))
  | _, _ => none

/-- Reads the arguments of a command line. -/
def readRequest (args : List String) : Except Stop Request := do
  let (general, rest) ← readArguments generalOptions true 0 args {}
  match rest with
  | [] => .error .usage
  | ["help"] => .error .help
  | ["help", topic] =>
    .error (if topic = "help" ∨ (commandOptions? topic).isSome then .help else .usage)
  | name :: rest =>
    match commandOptions? name with
    | none => .error .usage
    | some specs =>
      let most := if name = "validate" then 1 else 0
      let (f, _) ← readArguments specs false most rest {}
      match commandOf? name f with
      | some command => .ok ⟨general.value? "config", command⟩
      | none => .error .usage

example : (readRequest ["-vcx.yaml", "check", "-is"]).toOption =
    some ⟨some "x.yaml", .check true true⟩ := by
  decide +kernel

end BenchRoster.CommandLine
