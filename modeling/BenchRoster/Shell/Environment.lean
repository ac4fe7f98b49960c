/-
# Programs in other environments

The program `env` is given changes to its environment and a command that it runs in it; without a
command it shows the environment.
-/
import BenchRoster.IoFault
import BenchRoster.Tool.Options
import BenchRoster.Tool.Quoting

namespace BenchRoster.Shell.Environment

/-- What `env` is asked for. -/
structure Wanted where
  environment : List (String × String)
  command : List String
  /-- What ends a line of the environment that is shown. -/
  lineEnd : String
deriving DecidableEq

/-- The directories in which commands are looked up. -/
def Wanted.directories (w : Wanted) : List String :=
  ((w.environment.lookup "PATH").getD "/bin:/usr/bin").splitOn ":"

/-- What is said about a command that cannot be run, and the status of that. -/
def Wanted.failure (_w : Wanted) (program name : String) (f : IoFault) : String × Nat :=
  let first := s!"{program}: {Tool.quoted name}: {f.description}\n"
  if f = .noEntry then
    let hint :=
      if name.toList.contains ' ' then
        s!"{program}: use -[v]S to pass options in shebang lines\n"
      else ""
    (first ++ hint, 127)
  else (first, 126)

def switches : List Tool.Switch :=
  [⟨some 'i', "ignore-environment", .nothing⟩, ⟨some '0', "null", .nothing⟩,
   ⟨some 'u', "unset", .something⟩, ⟨some 'C', "chdir", .something⟩,
   ⟨some 'S', "split-string", .something⟩, ⟨some 'v', "debug", .nothing⟩]

/-- The status of misuse. -/
def misuse : Nat := 125

/-- The words of a text that is split at blanks; quotes keep blanks in a word. -/
def words (text : List Char) : List String :=
  let rec go : Option Char → Option (List Char) → List Char → List String
    | _, none, [] => []
    | _, some w, [] => [String.ofList w.reverse]
    | some q, w, c :: cs =>
      if c = q then go none (some (w.getD [])) cs else go (some q) (some (c :: w.getD [])) cs
    | none, w, c :: cs =>
      if c = '"' ∨ c = '\'' then go (some c) (some (w.getD [])) cs
      else if c = ' ' ∨ ('\x09' ≤ c ∧ c ≤ '\x0d') then
        match w with
        | some w => String.ofList w.reverse :: go none none cs
        | none => go none none cs
      else go none (some (c :: w.getD [])) cs
  go none none text

example : words "sh  -c 'a b'".toList = ["sh", "-c", "a b"] := by decide +kernel

/-- Puts the words of an argument to be split in its place, if it comes first. -/
def split (args : List String) : List String :=
  match args with
  | a :: rest =>
    match a.toList, rest with
    | ['-', 'S'], text :: rest => words text.toList ++ rest
    | '-' :: 'S' :: text, rest => words text ++ rest
    | _, _ =>
      let long := "--split-string=".toList
      if long.isPrefixOf a.toList then words (a.toList.drop long.length) ++ rest else args
  | [] => []

/-- Sets a variable in place, or adds it. -/
def put (environment : List (String × String)) (name value : String) :
    List (String × String) :=
  if environment.any (·.1 == name) then
    environment.map fun v => if v.1 == name then (name, value) else v
  else environment ++ [(name, value)]

/-- Takes the assignments in front of a command. -/
def assignAll (environment : List (String × String)) : List String →
    List (String × String) × List String
  | [] => (environment, [])
  | a :: as =>
    let name := a.toList.takeWhile (· != '=')
    if name.length < a.length then
      let value := a.toList.drop (name.length + 1)
      assignAll (put environment (String.ofList name) (String.ofList value)) as
    else (environment, a :: as)

/-- Reads the arguments of `env`; what is wrong with them is said, with a status. -/
def read (program : String) (environment : List (String × String)) (args : List String) :
    Except (String × Nat) Wanted :=
  match Tool.readArguments switches false (split args) with
  | .error e =>
    .error (s!"{program}: {e}\nTry '{program} --help' for more information.\n", misuse)
  | .ok g =>
    let (empty, operands) : Bool × List String :=
      match g.operands with
      | "-" :: rest => (true, rest)
      | operands => (g.has "i", operands)
    let start := if empty then [] else environment
    let removed := g.options.filterMap fun o => if o.1 == "u" then o.2 else none
    let kept := start.filter fun v => !removed.contains v.1
    let (environment, command) := assignAll kept operands
    .ok ⟨environment, command, if g.has "0" then "\x00" else "\n"⟩

end BenchRoster.Shell.Environment
