/-
# The program

The outer layer of the command line: it gathers the files that a request is about, carries the
request out, and prints what it gives.
-/
import BenchRoster.CommandLine

namespace BenchRoster.Main

/-- The content of a file of the system, if there is one that can be read. -/
def fileContent? (path : String) : IO (Option Bytes) := do
  try
    let content ← IO.FS.readBinFile path
    return some content.toList
  catch _ => return none

/-- Adds a file of the system to the machine, if there is one. -/
def gather (mode : Nat) (m : Machine) (path : String) : IO Machine := do
  match ← fileContent? path with
  | some content => return m.addFile path mode content
  | none => return m

/-- The permissions of a configuration file, and of a program. -/
def textMode : Nat := 0o644
def programMode : Nat := 0o755

/-- The configuration file that a request is about. -/
def configFile (r : CommandLine.Request) : String :=
  match r.command with
  | .validate file => file
  | _ => r.config.getD Config.defaultFile

/-- The paths at which the programs of a configuration may be found. -/
def programPaths (c : Config) : List String :=
  c.backends.flatMap fun e =>
    if Lookup.isPath e.locator then [e.locator.text]
    else c.searchPaths.map fun dir => Path.join dir e.locator.text

/-- The machine with the files that the arguments are about. -/
def machineFor (args : List String) : IO Machine := do
  match CommandLine.readRequest args with
  | .error _ => return .fresh
  | .ok r =>
    let m ← gather textMode .fresh (configFile r)
    match Config.find m r.config with
    | .error _ => return m
    | .ok c => (programPaths c).foldlM (gather programMode) m

end BenchRoster.Main

open BenchRoster in
def main (args : List String) : IO UInt32 := do
  let machine ← Main.machineFor args
  let printed := CommandLine.execute { machine, ambient := () } args
  IO.print printed.output
  IO.eprint printed.errors
  return printed.exit.toUInt32
