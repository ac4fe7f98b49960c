/-
# Finding and loading programs

A file can be run when it is a program of the system, or when its first line names an interpreter
that can be run.  `loadProgram` follows the interpreters to the program of the system at their end.
-/
import BenchRoster.Process
import BenchRoster.Tool

namespace BenchRoster.Shell

/-- The names of the programs that a system comes with. -/
def systemPrograms : List String := ["sh", "dash", "env"] ++ Tool.table.map (·.1)

/-- A program of the system that is ready to be run. -/
structure Loaded where
  program : String
  /-- The name that it is called by. -/
  name : String
  /-- What comes before the arguments of the caller. -/
  leading : List String := []
deriving DecidableEq, Repr

/-! ## Interpreters -/

/-- How many bytes of a file are looked at for its interpreter. -/
def headBytes : Nat := 256

def isBlankByte (b : UInt8) : Bool := b == 32 || b == 9

/-- The interpreter in a line, and its argument: all that comes after the blanks behind it.  A zero
byte ends both. -/
def splitInterpreter (line : Bytes) : Option (String × Option String) :=
  let text (b : Bytes) : String := String.ofList (Octets.ofBytes b)
  match line.dropWhile isBlankByte with
  | [] => none
  | start =>
    let name := start.takeWhile fun b => !isBlankByte b && b != 0
    match start.drop name.length with
    | [] => some (text name, none)
    | 0 :: _ => some (text name, none)
    | after => some (text name, some (text ((after.dropWhile isBlankByte).takeWhile (· != 0))))

/-- The interpreter that the first line of a file names, with the argument that it may have.  Blanks
at the end of the line are dropped.  A line without an end goes on with zero bytes, and its
interpreter must not reach the end of the bytes that are looked at. -/
def interpreterLine? (content : Bytes) : Option (String × Option String) :=
  match content.take headBytes with
  | 35 :: 33 :: rest =>
    let line := rest.takeWhile (· != 10)
    if line.length < rest.length then
      splitInterpreter (line.reverse.dropWhile isBlankByte).reverse
    else
      let padded := rest ++ List.replicate (headBytes - 2 - rest.length) 0
      if (padded.dropWhile isBlankByte).any fun b => isBlankByte b || b == 0 then
        splitInterpreter padded.dropLast
      else none
  | _ => none

example :
    interpreterLine? "#! /bin/sh -e \n".toUTF8.toList = some ("/bin/sh", some "-e") ∧
      interpreterLine? "#!/bin/cat".toUTF8.toList = some ("/bin/cat", none) ∧
      interpreterLine? "#! \n".toUTF8.toList = none := by decide +kernel

/-! ## Loading -/

/-- How many interpreters may stand one behind the other, with one to spare. -/
def maxInterpreters : Nat := 6

/-- Loads the program that a path leads to. -/
def loadProgram (p : Process) : Nat → String → String → Except IoFault Loaded
  | n, name, path => do
    match ← p.find path with
    | (_, .utility program) =>
      match n with
      | 0 => .error .tooManyLinks
      | _ + 1 => .ok ⟨program, name, []⟩
    | (_, .file mode content) =>
      if mode &&& 0o111 = 0 then .error .permissionDenied
      else
        match n with
        | 0 => .error .tooManyLinks
        | n + 1 =>
          match interpreterLine? content with
          | none => .error .badExecutable
          | some (interpreter, argument) =>
            let l ← loadProgram p n interpreter interpreter
            .ok { l with leading := l.leading ++ argument.toList ++ [path] }
    | _ => .error .permissionDenied

/-- Finds a program: a name with a slash is a path, any other name is looked up in the directories
in order, past those where it is missing or cannot be run. -/
def findProgram (p : Process) (directories : List String) (name : String) :
    Except IoFault Loaded :=
  if name = "" then .error .noEntry
  else if name.toList.contains '/' then loadProgram p maxInterpreters name name
  else if FileSystem.maxNameBytes < name.length then .error .nameTooLong
  else
    directories.foldr (fun d later =>
      match loadProgram p maxInterpreters name (Path.join d name), later with
      | .error .permissionDenied, .error _ => .error .permissionDenied
      | .error .permissionDenied, later => later
      | .error .noEntry, later => later
      | .error .notADirectory, later => later
      | r, _ => r) (.error .noEntry)

end BenchRoster.Shell
