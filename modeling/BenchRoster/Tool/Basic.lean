/-
# Tools

The small programs that come with a system.  A tool is given the name that it was called by and its
arguments, all in octets, works on its process, and answers its exit status.
-/
import BenchRoster.Process
import BenchRoster.Tool.Options
import BenchRoster.Tool.Quoting

namespace BenchRoster

/-- A small program, from its name and its arguments to what it does and its exit status. -/
abbrev Tool := String → List String → StateM Process Nat

namespace Tool

/-- A part of the work of a tool. -/
abbrev Work := StateM Process

/-- Writes to the standard output. -/
def put (s : Source) : Work Unit := modify (Process.put s)

def putBytes (b : Bytes) : Work Unit := put (.ofBytes b)

/-- Writes octets to the standard output. -/
def putText (s : String) : Work Unit := putBytes (Octets.toBytes s.toList)

/-- Writes a complaint of a program. -/
def complain (program text : String) : Work Unit :=
  modify (Process.say s!"{program}: {text}\n")

/-- Writes a complaint about the arguments of a program. -/
def complainOfUse (program text : String) : Work Unit :=
  modify (Process.say s!"{program}: {text}\nTry '{program} --help' for more information.\n")

/-- Reads everything that is left of the input. -/
def readInput : Work (Except IoFault Source) := fun p => p.readAll 0

/-- Connects with what an operand stands for: the input, or a file. -/
def openOperand (name : String) : Work (Except IoFault Connection) := fun p =>
  if name = "-" then ((p.descriptor? 0).elim (.error .badDescriptor) .ok, p)
  else
    match p.openPath name .reading with
    | .ok (d, p) => (.ok d, p)
    | .error f => (.error f, p)

/-- Everything that an operand stands for: the rest of the input, or a file. -/
def readOperand (name : String) : Work (Except IoFault Source) := do
  match ← openOperand name with
  | .ok d => fun p => p.drain d
  | .error f => return .error f

/-- Reads the arguments of a program, in which options may be `mixed` with operands or not, and
goes on with what it is given. -/
def withOptions (switches : List Switch) (mixed : Bool) (program : String) (args : List String)
    (go : Given → Work Nat) : Work Nat :=
  match readArguments switches mixed args with
  | .ok g => go g
  | .error e => do
    complainOfUse program e
    return 1

/-- Does the same for each operand, and answers 1 if it went wrong for some, and otherwise 0. -/
def overOperands (operands : List String) (go : String → Work Bool) : Work Nat := do
  let outcomes ← (if operands.isEmpty then ["-"] else operands).mapM go
  return if outcomes.all id then 0 else 1

/-- Ends the work of a program that may have used its input, which cannot be closed if it has been
closed before. -/
def closeInput (program what : String) (used good : Bool) : Work Nat := do
  if used && ((← get).descriptor? 0).isNone then
    complain program s!"{what}: {IoFault.badDescriptor.description}"
    return 1
  return if good then 0 else 1

/-- The lines of some bytes, each with its line feed. -/
def linesOf (b : Bytes) : List Bytes :=
  let (done, current) := b.foldl (fun (acc : List Bytes × Bytes) x =>
    if x = 10 then ((x :: acc.2).reverse :: acc.1, []) else (acc.1, x :: acc.2)) ([], [])
  (if current.isEmpty then done else current.reverse :: done).reverse

/-- A number as it is written at the end of a field of the given width. -/
def alignRight (width : Nat) (s : String) : String :=
  String.ofList (List.replicate (width - s.length) ' ') ++ s

end Tool

end BenchRoster
