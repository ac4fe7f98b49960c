/-
# Options of a transformer

The part of a transformer's options file that a comparison uses: the dialect that its parser
accepts, and identifiers that its optimizer replaces.  Expression text is inlined as it is;
environment entries become quoted texts under `process.env`.
-/
import BenchRoster.Table

namespace BenchRoster

/-- Source dialects. -/
inductive Dialect where
  | ecmascript
  | typescript
deriving DecidableEq, Repr

def Dialect.word : Dialect → String
  | .ecmascript => "ecmascript"
  | .typescript => "typescript"

/-- What the parser accepts. -/
structure ParserOptions where
  dialect : Dialect := .ecmascript
  jsx : Bool := false
  tsx : Bool := false
deriving DecidableEq

/-- Identifiers that are replaced. -/
structure Globals where
  /-- Identifiers with their expression text. -/
  vars : Table := .empty
  /-- Environment variables with their values. -/
  envs : Table := .empty
deriving DecidableEq

structure Optimizer where
  globals : Option Globals := none
deriving DecidableEq

/-- Rewriting passes. -/
structure Passes where
  optimizer : Option Optimizer := none
deriving DecidableEq

structure Compilation where
  parser : ParserOptions := {}
  passes : Passes := {}
deriving DecidableEq

/-- Options of a transformer. -/
structure Options where
  compilation : Compilation := {}
deriving DecidableEq

namespace Options

/-- The options that an empty document stands for. -/
def default : Options := {}

instance : Inhabited Options := ⟨default⟩

/-- Options that replace globals and are otherwise the default. -/
def withGlobals (g : Globals) : Options :=
  { compilation := { passes := { optimizer := some { globals := some g } } } }

/-- The replaced identifiers, if that pass is on. -/
def globals (o : Options) : Option Globals :=
  o.compilation.passes.optimizer.bind (·.globals)

@[simp] theorem globals_withGlobals (g : Globals) : (withGlobals g).globals = some g := rfl

@[simp] theorem globals_default : default.globals = none := rfl

end Options

namespace Globals

/-- Sets the value of an environment variable. -/
def env (g : Globals) (name value : String) : Globals := { g with envs := g.envs.insert name value }

/-- Sets the expression text of an identifier. -/
def var (g : Globals) (name expr : String) : Globals := { g with vars := g.vars.insert name expr }

/-- How an environment variable is spelled in the source. -/
def envKey (name : String) : String := "process.env." ++ name

/-- The value of an environment variable between single quotes. -/
def envText (value : String) : String := "'" ++ value ++ "'"

/-- The replacement text of every identifier. -/
def inlined (g : Globals) : Table :=
  g.envs.entries.foldl (fun t e => t.insert (envKey e.1) (envText e.2)) g.vars

end Globals

end BenchRoster
