/-
# Files

A file system maps places, given by the components from the root, to what is there: directories,
files with permissions, the programs that come with the system, and two devices.  Paths are walked
component by component, so every component but the last must be a directory.
-/
import BenchRoster.IoFault
import BenchRoster.Path

namespace BenchRoster

/-- The bytes of a file or a stream. -/
abbrev Bytes := List UInt8

/-- What a place of the file system holds. -/
inductive Entry where
  | directory
  | file (mode : Nat) (content : Bytes)
  /-- A program of the system, known by its name. -/
  | utility (name : String)
  /-- Swallows what is written and is empty when read. -/
  | nullDevice
  /-- Is an endless run of zero bytes when read. -/
  | zeroDevice
deriving DecidableEq

/-- A file that some execute bit allows to be run. -/
def Entry.isExecutable : Entry → Bool
  | .file mode _ => mode &&& 0o111 != 0
  | .utility _ => true
  | _ => false

/-- An ordinary file. -/
def Entry.isFile : Entry → Bool
  | .file _ _ => true
  | .utility _ => true
  | _ => false

/-- Places in the file system: components from the root. -/
abbrev Place := List String

structure FileSystem where
  entries : List (Place × Entry)

namespace FileSystem

/-- What is at a place; the root is a directory. -/
def entry? (fs : FileSystem) (p : Place) : Option Entry :=
  if p = [] then some .directory else fs.entries.lookup p

/-- Puts something at a place, in place of what was there. -/
def put (fs : FileSystem) (p : Place) (e : Entry) : FileSystem :=
  ⟨(p, e) :: fs.entries.filter fun x => x.1 != p⟩

/-- Removes a place with all that is below it. -/
def removeAll (fs : FileSystem) (p : Place) : FileSystem :=
  ⟨fs.entries.filter fun x => !(p.isPrefixOf x.1)⟩

/-- Makes a directory, and first those above it; a place that is taken stays as it is. -/
def makeDirectories (fs : FileSystem) (above : Place) : Place → FileSystem
  | [] => fs
  | c :: cs =>
    let here := above ++ [c]
    let fs := if (fs.entry? here).isSome then fs else fs.put here .directory
    makeDirectories fs here cs

/-- Puts a file with the directories above it. -/
def addFile (fs : FileSystem) (p : Place) (mode : Nat) (content : Bytes) : FileSystem :=
  (fs.makeDirectories [] p.dropLast).put p (.file mode content)

/-- The longest component of a path, in bytes. -/
def maxNameBytes : Nat := 255

/-- The number of bytes that a path must stay below. -/
def maxPathBytes : Nat := 4096

/-- Walks from a place along the pieces of a path, as far as the directory of the last one. -/
def walk (fs : FileSystem) (here : Place) : List String → Except IoFault Place
  | [] => .ok here
  | c :: cs =>
    match fs.entry? here with
    | none => .error .noEntry
    | some .directory =>
      if maxNameBytes < c.utf8ByteSize then .error .nameTooLong
      else if c = "" ∨ c = "." then walk fs here cs
      else if c = ".." then walk fs here.dropLast cs
      else walk fs (here ++ [c]) cs
    | some _ => .error .notADirectory

/-- The place that a path leads to, whether there is anything or not. -/
def target (fs : FileSystem) (workDir : Place) (path : String) : Except IoFault Place :=
  if path.toList.contains '\x00' then .error .nulByte
  else if path.isEmpty then .error .noEntry
  else if maxPathBytes ≤ path.utf8ByteSize then .error .nameTooLong
  else fs.walk (if Path.isAbsolute path then [] else workDir) (Path.pieces path)

/-- What a path leads to. -/
def find (fs : FileSystem) (workDir : Place) (path : String) : Except IoFault (Place × Entry) := do
  let p ← fs.target workDir path
  match fs.entry? p with
  | some e => .ok (p, e)
  | none => .error .noEntry

def pathExists (fs : FileSystem) (workDir : Place) (path : String) : Bool :=
  match fs.find workDir path with
  | .ok _ => true
  | .error _ => false

def isDirectory (fs : FileSystem) (workDir : Place) (path : String) : Bool :=
  match fs.find workDir path with
  | .ok (_, .directory) => true
  | _ => false

/-- The bytes of a file; the program files of the system have none to show. -/
def contentOf (fs : FileSystem) (workDir : Place) (path : String) : Except IoFault Bytes := do
  match ← fs.find workDir path with
  | (_, .file _ content) => .ok content
  | (_, .directory) => .error .isADirectory
  | _ => .ok []

/-- The permissions of a file that is made without asking for any. -/
def defaultMode : Nat := 0o644

/-- The file system with a file of this content at the path; its permissions are kept if it is
there already. -/
def store (fs : FileSystem) (workDir : Place) (path : String) (content : Bytes) :
    Except IoFault FileSystem := do
  let p ← fs.target workDir path
  match fs.entry? p with
  | some (.file mode _) => .ok (fs.put p (.file mode content))
  | some .directory => .error .isADirectory
  | some _ => .ok fs
  | none =>
    match fs.entry? p.dropLast with
    | some .directory => .ok (fs.put p (.file defaultMode content))
    | some _ => .error .notADirectory
    | none => .error .noEntry

end FileSystem

end BenchRoster
