/-
# Machines

The part of a computer that programs see: files, the working directory, the environment, and where
temporary directories are made.  A machine runs programs; what it was before the run and what it is
afterwards differ in the files only.
-/
import BenchRoster.Shell.Running

namespace BenchRoster

structure Machine where
  files : FileSystem
  workDir : Place
  environment : List (String × String)
  /-- The directory in which temporary directories are made. -/
  temporary : String
  /-- The number of the next temporary directory. -/
  nextTemporary : Nat := 0

namespace Machine

/-- The files of a system without anything of a user: its programs, the two devices and a directory
for temporary files. -/
def systemFiles : FileSystem :=
  let dirs : List Place := [["usr"], ["usr", "bin"], ["bin"], ["dev"], ["tmp"]]
  let programs (dir : Place) : List (Place × Entry) :=
    Shell.systemPrograms.map fun p => (dir ++ [p], .utility p)
  ⟨dirs.map (fun d => (d, .directory)) ++ programs ["usr", "bin"] ++ programs ["bin"] ++
    [(["dev", "null"], .nullDevice), (["dev", "zero"], .zeroDevice)]⟩

/-- A machine with an empty working directory. -/
def fresh : Machine :=
  let workDir : Place := ["tmp", "work"]
  { files := systemFiles.makeDirectories [] workDir, workDir,
    environment := [("PATH", "/usr/bin:/bin"), ("HOME", "/nonexistent")], temporary := "/tmp" }

/-- The place of a path that is written without dots. -/
def placeOf (m : Machine) (path : String) : Place :=
  let components := (Path.pieces path).filter fun c => c ≠ "" ∧ c ≠ "."
  if Path.isAbsolute path then components else m.workDir ++ components

/-- Puts a file at a path, with the directories above it. -/
def addFile (m : Machine) (path : String) (mode : Nat) (content : Bytes) : Machine :=
  { m with files := m.files.addFile (m.placeOf path) mode content }

/-- Makes a directory, with those above it. -/
def addDirectory (m : Machine) (path : String) : Machine :=
  { m with files := m.files.makeDirectories [] (m.placeOf path) }

/-- The parts of a list of directories, which are separated by colons. -/
def splitDirectories (s : String) : List String := (s.toList.splitOn ':').map String.ofList

/-- The text of a list of directories; a colon in one of them could not be told from a separator. -/
def joinDirectories? (dirs : List String) : Option String :=
  if dirs.any fun d => d.toList.contains ':' then none else some (":".intercalate dirs)

/-- The directories in which programs are looked up, if the environment lists any. -/
def searchPath? (m : Machine) : Option (List String) :=
  (m.environment.lookup "PATH").map splitDirectories

/-- The directories in which the system looks for a program when the environment lists none. -/
def systemPath : List String := ["/bin", "/usr/bin"]

/-- The fault that asking for the working directory meets when it has been removed. -/
def workDirFault? (m : Machine) : Option IoFault :=
  if m.files.entry? m.workDir = some .directory then none else some .noEntry

/-- The home directory. -/
def home? (m : Machine) : Option String := m.environment.lookup "HOME"

/-- Whether some of the texts holds a NUL, which no program can be given. -/
def holdsNul (texts : List String) : Bool := texts.any fun t => t.toList.contains '\x00'

/-! ## Running programs -/

/-- A process with the given input, of which the output and the complaints are kept. -/
def process (m : Machine) (input : Bytes) : Process :=
  { files := m.files, workDir := m.workDir,
    environment := m.environment.map fun v => (Octets.ofText v.1, Octets.ofText v.2),
    handles := #[.pipe { front := input }, .pipe {}, .pipe {}],
    descriptors := [(0, ⟨0, true, false⟩), (1, ⟨1, false, true⟩), (2, ⟨2, false, true⟩)] }

/-- What was written to one of the handles of a process. -/
def written (p : Process) (handle : Nat) : Bytes :=
  match p.handles[handle]? with
  | some (.pipe s) => s.bytes
  | _ => []

/-- Runs a program on an input.  A program that cannot be started leaves the machine as it is. -/
def runProgram (m : Machine) (program : String) (args : List String) (input : Bytes) :
    Except IoFault Finished × Machine :=
  if holdsNul (program :: args) then (.error .nulByte, m)
  else
    let p := m.process input
    let directories := m.searchPath?.getD systemPath
    match Shell.findProgram p (directories.map Octets.ofText) (Octets.ofText program) with
    | .error f => (.error f, m)
    | .ok l =>
      let (status, p) := Shell.execute p l (args.map Octets.ofText)
      (.ok ⟨status, written p 1, written p 2⟩, { m with files := p.files })

/-! ## Temporary directories -/

/-- The name of a temporary directory. -/
def temporaryName (n : Nat) : String :=
  let digits := toString n
  ".tmp" ++ String.ofList (List.replicate (6 - digits.length) '0') ++ digits

/-- The path of a temporary directory. -/
def temporaryPath (m : Machine) (n : Nat) : String := Path.join m.temporary (temporaryName n)

/-- How many names are tried for a temporary directory. -/
def maxTries : Nat := 65536

/-- The first number from the given one on that is not taken, within so many tries. -/
def firstFree? (taken : Nat → Bool) : Nat → Nat → Option Nat
  | 0, _ => none
  | tries + 1, n => if taken n then firstFree? taken tries (n + 1) else some n

theorem firstFree?_free {taken : Nat → Bool} {tries n k : Nat}
    (h : firstFree? taken tries n = some k) : taken k = false := by
  induction tries generalizing n with
  | zero => simp [firstFree?] at h
  | succ tries ih =>
    rw [firstFree?] at h
    split at h
    · exact ih h
    · cases h; simp_all

/-- The path of a temporary directory, or its name, is longer than the system allows. -/
def temporaryTooLong (m : Machine) (n : Nat) : Bool :=
  FileSystem.maxNameBytes < (temporaryName n).utf8ByteSize ||
    FileSystem.maxPathBytes ≤ (m.temporaryPath n).utf8ByteSize

/-- Makes a directory at a place that was not taken, and answers its path. -/
def makeTemporary (m : Machine) : Except IoFault String × Machine :=
  match m.files.find m.workDir m.temporary with
  | .ok (p, .directory) =>
    let taken (n : Nat) : Bool := (m.files.entry? (p ++ [temporaryName n])).isSome
    match firstFree? taken maxTries m.nextTemporary with
    | some n =>
      if m.temporaryTooLong n then (.error (.atPath .nameTooLong (m.temporaryPath n)), m)
      else
        (.ok (m.temporaryPath n),
          { m with
            files := m.files.put (p ++ [temporaryName n]) .directory, nextTemporary := n + 1 })
    | none => (.error (.atPath .noFreeName m.temporary), m)
  | .ok _ => (.error (.atPath .notADirectory (m.temporaryPath m.nextTemporary)), m)
  | .error f => (.error (.atPath f (m.temporaryPath m.nextTemporary)), m)

/-- Removes a directory with all that it holds; one that is not there any more is no fault. -/
def removeDirectory (m : Machine) (path : String) : Machine :=
  match m.files.target m.workDir path with
  | .ok p => { m with files := m.files.removeAll p }
  | .error _ => m

/-- Writes a file. -/
def store (m : Machine) (path : String) (content : Bytes) : Except IoFault Machine :=
  (m.files.store m.workDir path content).map fun files => { m with files }

end Machine

end BenchRoster
