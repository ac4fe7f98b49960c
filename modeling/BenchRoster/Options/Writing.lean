/-
# Options as a document

Options are written with the dialect always, flags only when set, passes only when present, and
tables only when they have entries.
-/
import BenchRoster.Json.Value
import BenchRoster.Options

namespace BenchRoster

open Json (Value)

/-- The members whose value is there. -/
def presentMembers (members : List (String × Option Value)) : List (String × Value) :=
  members.filterMap fun m => m.2.map (m.1, ·)

/-- A flag is written only when it is set. -/
def flagValue? (b : Bool) : Option Value := if b then some (.flag true) else none

def Table.toValue (t : Table) : Value := .object (t.entries.map fun e => (e.1, .text e.2))

/-- A table is written only when it has entries. -/
def Table.toValue? (t : Table) : Option Value := if t.isEmpty then none else some t.toValue

def ParserOptions.toValue (p : ParserOptions) : Value :=
  .object (presentMembers
    [("syntax", some (.text p.dialect.word)), ("jsx", flagValue? p.jsx), ("tsx", flagValue? p.tsx)])

def Globals.toValue (g : Globals) : Value :=
  .object (presentMembers [("vars", g.vars.toValue?), ("envs", g.envs.toValue?)])

def Optimizer.toValue (o : Optimizer) : Value :=
  .object (presentMembers [("globals", o.globals.map Globals.toValue)])

def Passes.toValue (p : Passes) : Value :=
  .object (presentMembers [("optimizer", p.optimizer.map Optimizer.toValue)])

def Compilation.toValue (c : Compilation) : Value :=
  .object [("parser", c.parser.toValue), ("transform", c.passes.toValue)]

def Options.toValue (o : Options) : Value := .object [("jsc", o.compilation.toValue)]

/-- The text of an options file. -/
def Options.toJson (o : Options) : String := o.toValue.prettyString

end BenchRoster
