/-
# The tools of a system

The tools by name.
-/
import BenchRoster.Tool.Cat
import BenchRoster.Tool.Count
import BenchRoster.Tool.Echo
import BenchRoster.Tool.Edit
import BenchRoster.Tool.Tail
import BenchRoster.Tool.Translate

namespace BenchRoster.Tool

/-- A tool that does nothing and answers a status. -/
def silent (status : Nat) : Tool := fun _ _ => return status

/-- Takes time, of which nothing is seen. -/
def sleep : Tool := fun program args => do
  if args.isEmpty then
    complainOfUse program "missing operand"
    return 1
  else return 0

/-- The tools. -/
def table : List (String × Tool) :=
  [("cat", cat), ("head", head), ("tail", tail), ("wc", wc), ("tr", tr), ("sed", sed),
   ("echo", echo), ("printf", printf), ("true", silent 0), ("false", silent 1),
   ("sleep", sleep)]

/-- Runs a tool.  What could not be written is complained about at the end. -/
def run (tool : Tool) (program : String) (args : List String) : Work Nat := do
  modify fun p => { p with writeFault := none }
  let status ← tool program args
  match (← get).writeFault with
  | none => return status
  | some f =>
    complain program s!"write error: {f.description}"
    return 1

end BenchRoster.Tool
