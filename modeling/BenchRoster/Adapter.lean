/-
# Adapters

An adapter turns a handle into an invocation, which can be called any number of times and is
released in the end.  The adapter of command-line transformers passes fixed arguments; options are
written into a file of their own, which lives as long as the invocation.
-/
import BenchRoster.Options.Writing
import BenchRoster.Resolver

namespace BenchRoster

/-- Why no invocation could be made. -/
inductive AdaptError where
  | prepare (reason : String)
  | io (context : String) (reason : String)
deriving DecidableEq, Repr

namespace AdaptError

def message : AdaptError → String
  | prepare reason => s!"failed to prepare backend options: {reason}"
  | io context reason => s!"IO error: {context} - {reason}"

end AdaptError

/-- Something that transforms a source. -/
structure Invocation (τ : Type) where
  call : String → Action τ TransformError Bytes
  /-- Gives back what the invocation holds. -/
  release : World τ → World τ := id

abbrev Adapter (τ : Type) := Handle τ → Action τ AdaptError (Invocation τ)

namespace Adapter

/-- Calls the handle with fixed arguments. -/
def forward (τ : Type) (args : List String) : Adapter τ := fun h =>
  .pure { call := fun source => h source args }

/-- The name of an options file in its directory. -/
def optionsFile : String := ".swcrc"

/-- Writes options into a file in a directory of its own, and answers the directory. -/
def prepareOptions (o : Options) (m : Machine) : Except AdaptError String × Machine :=
  match m.makeTemporary with
  | (.error f, m) => (.error (.io "creating options directory" f.message), m)
  | (.ok dir, m) =>
    match m.store (Path.join dir optionsFile) (Text.utf8 o.toJson) with
    | .ok m => (.ok dir, m)
    -- nothing is left behind when the file cannot be written
    | .error f => (.error (.io "writing options file" f.message), m.removeDirectory dir)

/-- The arguments that introduce an options file. -/
def optionsArgs (flag dir : String) : List String := [flag, Path.join dir optionsFile]

/-- The adapter of a command-line transformer. -/
def command (τ : Type) (args : List String) (options : Option Options) (flag : String) :
    Adapter τ := fun h =>
  match options with
  | none => forward τ args h
  | some o =>
    (Action.onMachine (prepareOptions o)).bind fun dir =>
      .pure
        { call := fun source => h source (args ++ optionsArgs flag dir),
          release := fun w => { w with machine := w.machine.removeDirectory dir } }

end Adapter

end BenchRoster
