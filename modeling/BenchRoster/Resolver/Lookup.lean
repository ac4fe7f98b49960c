/-
# Looking up programs

A locator with a slash is the path of a program.  Any other locator is the name of a program, which
is looked up in the configured directories that exist, in their order, and then in those of the
machine, which the environment has to list.  Only regular files that may be executed count; other
entries of that name are passed by.
-/
import BenchRoster.Resolver

namespace BenchRoster

namespace Machine

/-- The path leads to a regular file. -/
def isFile (m : Machine) (path : String) : Bool :=
  match m.files.find m.workDir path with
  | .ok (_, e) => e.isFile
  | .error _ => false

/-- The path leads to a regular file that may be executed. -/
def isProgram (m : Machine) (path : String) : Bool :=
  match m.files.find m.workDir path with
  | .ok (_, e) => e.isFile && e.isExecutable
  | .error _ => false

def isDirectory (m : Machine) (path : String) : Bool := m.files.isDirectory m.workDir path

/-- A tilde that is the first component of a directory stands for the home directory. -/
def expandHome (m : Machine) (dir : String) : String :=
  match Path.pieces dir with
  | "~" :: rest => (rest.filter fun c => c ≠ "" ∧ c ≠ ".").foldl Path.join (m.home?.getD "")
  | _ => dir

/-- The path of a program of that name in a directory. -/
def candidate (m : Machine) (name dir : String) : String := Path.join (m.expandHome dir) name

/-- The first of the directories' programs of that name. -/
def firstProgram? (m : Machine) (name : String) (dirs : List String) : Option String :=
  (dirs.map (m.candidate name)).find? m.isProgram

end Machine

namespace Lookup

/-- The locator is a path and not a name. -/
def isPath (l : Locator) : Bool := l.text.toList.contains '/'

/-- A program at a path. -/
def atPath (m : Machine) (l : Locator) : Except ResolveError String :=
  if !m.isFile l.text then .error (.notFound l)
  else if !m.isProgram l.text then .error (.notExecutable l.text)
  else .ok l.text

/-- Why directories cannot be handed on when one of them holds the separator of lists. -/
def separatorReason : String := "path segment contains separator \x60:\x60"

/-- The program in the configured directories, if they hold one.  Those that exist are handed on as
one text, which cannot be made if one of them holds the separator, and along with the working
directory, which may be gone. -/
def searched (m : Machine) (paths : List String) (l : Locator) :
    Except ResolveError (Option String) :=
  let existing := paths.filter m.isDirectory
  if existing.isEmpty then .ok none
  else
    match Machine.joinDirectories? existing with
    | none => .error (.lookup l separatorReason)
    | some list =>
      match m.workDirFault? with
      | some f => .error (.lookup l f.message)
      | none => .ok (m.firstProgram? l.text (Machine.splitDirectories list))

/-- Why a name cannot be looked up when the environment lists no directories. -/
def noPathReason : String := "no path to search and provided name is not an absolute path"

/-- The path of the program that a locator stands for. -/
def program (m : Machine) (paths : List String) (l : Locator) : Except ResolveError String :=
  if isPath l then atPath m l
  else do
    match ← searched m paths l with
    | some path => .ok path
    | none =>
      -- the directories of the machine come after the configured ones
      match m.searchPath? with
      | none => .error (.lookup l noPathReason)
      | some dirs =>
        match m.firstProgram? l.text dirs with
        | some path => .ok path
        | none => .error (.notFound l)

end Lookup

/-- Finds programs, with the given directories before those of the machine. -/
def programResolver (τ : Type) (paths : List String) : Resolver τ := fun l =>
  (Action.onMachine fun m => (Lookup.program m paths l, m)).bind fun path =>
    .pure (programHandle τ path)

end BenchRoster
