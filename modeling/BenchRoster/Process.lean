/-
# Processes

What a running program works with: the files, its working directory and environment, and the
descriptors through which it reads and writes.  Reading and writing are state changes of a
`Process`; several descriptors may share a handle, and then share the place that they have come to.
-/
import BenchRoster.FileSystem
import BenchRoster.Text.Octets

namespace BenchRoster

/-! ## Sources -/

/-- What is there to be read: bytes and, unless the cycle is empty, its copies without end. -/
structure Source where
  bytes : Bytes := []
  cycle : Bytes := []
deriving Inhabited

namespace Source

/-- A source with an end. -/
def ofBytes (b : Bytes) : Source := ⟨b, []⟩

def isEndless (s : Source) : Bool := !s.cycle.isEmpty

/-- The first bytes, and what is left. -/
def take (n : Nat) (s : Source) : Bytes × Source :=
  let front := s.bytes.take n
  let missing := n - front.length
  if missing = 0 then (front, { s with bytes := s.bytes.drop n })
  else if s.isEndless then
    let rounds := missing / s.cycle.length
    let inside := missing % s.cycle.length
    (front ++ (List.replicate rounds s.cycle).flatten ++ s.cycle.take inside,
      { s with bytes := if inside = 0 then [] else s.cycle.drop inside })
  else (front, { s with bytes := [] })

/-- One source after the other; nothing comes after an endless one. -/
def append (a b : Source) : Source := if a.isEndless then a else ⟨a.bytes ++ b.bytes, b.cycle⟩

def map (f : UInt8 → UInt8) (s : Source) : Source := ⟨s.bytes.map f, s.cycle.map f⟩

def filter (p : UInt8 → Bool) (s : Source) : Source := ⟨s.bytes.filter p, s.cycle.filter p⟩

def isEmpty (s : Source) : Bool := s.bytes.isEmpty && s.cycle.isEmpty

/-- A source gives as many bytes as are asked for, unless it ends before. -/
theorem length_take_of_endless {n : Nat} {s : Source} (h : s.isEndless = true) :
    (s.take n).1.length = n := by
  have hc : 0 < s.cycle.length := by
    cases hs : s.cycle with
    | nil => simp [isEndless, hs] at h
    | cons c cs => simp
  simp only [take, h, if_true]
  split
  · rename_i hm
    simp only [List.length_take] at hm ⊢
    omega
  · rename_i hm
    have hd := Nat.div_add_mod (n - (s.bytes.take n).length) s.cycle.length
    have hlt := Nat.mod_lt (n - (s.bytes.take n).length) hc
    simp only [List.length_append, List.length_flatten, List.map_replicate, List.sum_replicate_nat,
      List.length_take] at hm hd hlt ⊢
    rw [Nat.mul_comm] at hd
    omega

end Source

/-! ## Handles -/

/-- Bytes on their way: those that are read next, and what was written since, newest first. -/
structure Stream where
  front : Bytes := []
  back : List Bytes := []
  /-- What comes again and again after all that, if anything. -/
  cycle : Bytes := []

namespace Stream

/-- All bytes of a stream that come once, in the order in which they are read. -/
def bytes (s : Stream) : Bytes := s.front ++ s.back.reverse.flatten

def source (s : Stream) : Source := ⟨s.bytes, s.cycle⟩

/-- A stream that holds what a source gives. -/
def ofSource (s : Source) : Stream := ⟨s.bytes, [], s.cycle⟩

/-- Writes to a stream; what comes after an endless source is never read. -/
def write (s : Stream) (b : Source) : Stream :=
  if s.cycle.isEmpty then { s with back := b.bytes :: s.back, cycle := b.cycle } else s

theorem source_write (s : Stream) (b : Source) : (s.write b).source = s.source.append b := by
  cases h : s.cycle with
  | nil => simp [write, source, bytes, Source.append, Source.isEndless, h, List.append_assoc]
  | cons c cs => simp [write, source, bytes, Source.append, Source.isEndless, h]

end Stream

/-- Something that is open. -/
inductive Opened where
  | pipe (stream : Stream)
  /-- A file, read and written from an offset on; if it is appended to, always at its end. -/
  | file (place : Place) (offset : Nat) (append : Bool)
  | directory
  /-- Swallows what is written and is empty when read. -/
  | null
  /-- Swallows what is written and gives zero bytes without end. -/
  | zeros

/-- The connection of a descriptor with a handle. -/
structure Connection where
  handle : Nat
  readable : Bool := true
  writable : Bool := true
deriving DecidableEq

/-- What a file is opened for. -/
inductive Access where
  | reading
  /-- Makes the file, or empties it. -/
  | writing
  | appending
  /-- Reading and writing without emptying the file. -/
  | updating
deriving DecidableEq

structure Process where
  files : FileSystem
  workDir : Place
  /-- The variables that every program is given, their names and values in octets. -/
  environment : List (String × String)
  /-- All that was ever opened, by number. -/
  handles : Array Opened := #[]
  descriptors : List (Nat × Connection) := []
  /-- The first fault in writing to the standard output. -/
  writeFault : Option IoFault := none

namespace Process

def descriptor? (p : Process) (n : Nat) : Option Connection := p.descriptors.lookup n

/-- Connects a descriptor, or closes it. -/
def connect (p : Process) (n : Nat) (d : Option Connection) : Process :=
  let others := p.descriptors.filter (·.1 != n)
  { p with descriptors := d.elim others fun d => (n, d) :: others }

/-- Adds a handle, and answers its number. -/
def addHandle (p : Process) (h : Opened) : Nat × Process :=
  (p.handles.size, { p with handles := p.handles.push h })

def setHandle (p : Process) (n : Nat) (h : Opened) : Process :=
  { p with handles := p.handles.set! n h }

/-- The working directory as a path. -/
def workPath (p : Process) : String := "/" ++ "/".intercalate p.workDir

/-! ## Opening -/

/-- What a path in octets leads to. -/
def find (p : Process) (path : String) : Except IoFault (Place × Entry) :=
  p.files.find p.workDir (Octets.toText path)

/-- The number of the descriptor that a place stands for. -/
def descriptorOf? (place : Place) : Option Nat :=
  match place with
  | ["dev", "stdin"] => some 0
  | ["dev", "stdout"] => some 1
  | ["dev", "stderr"] => some 2
  | ["dev", "fd", n] => n.toNat?
  | ["proc", "self", "fd", n] => n.toNat?
  | _ => none

/-- Opens a path.  A place that stands for a descriptor is the file that it is connected to, which
is opened afresh, or else another name for its handle. -/
def openPath (p : Process) (path : String) (access : Access) :
    Except IoFault (Connection × Process) := do
  let path := Octets.toText path
  let readable := access = .reading ∨ access = .updating
  let writable := access ≠ .reading
  let fresh (p : Process) (h : Opened) : Except IoFault (Connection × Process) :=
    let (handle, p) := p.addHandle h
    .ok (⟨handle, readable, writable⟩, p)
  let openAt (place : Place) : Except IoFault (Connection × Process) :=
    match p.files.entry? place, access with
    | some .directory, .reading => fresh p .directory
    | some .directory, _ => .error .isADirectory
    | some .nullDevice, _ => fresh p .null
    | some .zeroDevice, _ => fresh p .zeros
    | some (.utility _), _ => fresh p .null
    | some (.file mode _), .writing =>
      fresh { p with files := p.files.put place (.file mode []) } (.file place 0 false)
    | some (.file _ _), access => fresh p (.file place 0 (access = .appending))
    | none, .reading => .error .noEntry
    | none, access => do
      let files ← p.files.store p.workDir path []
      fresh { p with files } (.file place 0 (access = .appending))
  let place ← p.files.target p.workDir path
  match descriptorOf? place with
  | none => openAt place
  | some n =>
    match p.descriptor? n with
    | none => .error .noEntry
    | some d =>
      match p.handles[d.handle]? with
      | some (.file place _ _) => openAt place
      | _ => .ok (⟨d.handle, readable, writable⟩, p)

/-! ## Reading -/

/-- The content of a file, as long as there is one. -/
def contentAt (p : Process) (place : Place) : Bytes :=
  match p.files.entry? place with
  | some (.file _ content) => content
  | _ => []

/-- All that can be read through a connection. -/
def source (p : Process) (d : Connection) : Except IoFault Source :=
  if !d.readable then .error .badDescriptor
  else
    match p.handles[d.handle]? with
    | none => .error .badDescriptor
    | some (.pipe s) => .ok s.source
    | some (.file place offset _) => .ok (.ofBytes ((p.contentAt place).drop offset))
    | some .directory => .error .isADirectory
    | some .null => .ok {}
    | some .zeros => .ok ⟨[], [0]⟩

/-- Has read so many bytes through a connection, and leaves the given rest. -/
def advance (p : Process) (d : Connection) (count : Nat) (rest : Source) : Process :=
  match p.handles[d.handle]? with
  | some (.pipe _) => p.setHandle d.handle (.pipe (.ofSource rest))
  | some (.file place offset append) =>
    p.setHandle d.handle (.file place (offset + count) append)
  | _ => p

/-- A pipe cannot be wound back to bytes that were read too early. -/
def isPipe (p : Process) (d : Connection) : Bool :=
  match p.handles[d.handle]? with
  | some (.pipe _) => true
  | _ => false

/-- All that can be read from a descriptor. -/
def input (p : Process) (n : Nat) : Except IoFault Source :=
  match p.descriptor? n with
  | some d => p.source d
  | none => .error .badDescriptor

/-- Reads everything up to the end of a connection. -/
def drain (p : Process) (d : Connection) : Except IoFault Source × Process :=
  match p.source d with
  | .ok s => (.ok s, p.advance d s.bytes.length ⟨[], s.cycle⟩)
  | .error f => (.error f, p)

/-- Reads everything up to the end. -/
def readAll (p : Process) (n : Nat) : Except IoFault Source × Process :=
  match p.descriptor? n with
  | none => (.error .badDescriptor, p)
  | some d => p.drain d

/-- The file that a connection leads to, and the offset in it. -/
def placeOf? (p : Process) (d : Connection) : Option (Place × Nat) :=
  match p.handles[d.handle]? with
  | some (.file place offset _) => some (place, offset)
  | _ => none

/-- Something is left to be read of a file that is written to as well. -/
def feedsItself (p : Process) (input output : Connection) : Bool :=
  match p.placeOf? input, p.placeOf? output with
  | some (place, offset), some (other, _) =>
    place == other && offset < (p.contentAt place).length
  | _, _ => false

/-- Reads as far as the given number of bytes. -/
def readBytes (p : Process) (n count : Nat) : Except IoFault Bytes × Process :=
  match p.descriptor? n with
  | none => (.error .badDescriptor, p)
  | some d =>
    match p.source d with
    | .ok s =>
      let (b, rest) := s.take count
      (.ok b, p.advance d b.length rest)
    | .error f => (.error f, p)

/-- Reads a line up to its line feed, which the answer tells to be there or not. -/
def readLine (p : Process) (n : Nat) : Except IoFault (Bytes × Bool) × Process :=
  match p.descriptor? n with
  | none => (.error .badDescriptor, p)
  | some d =>
    match p.source d with
    | .ok s =>
      let line := s.bytes.takeWhile (· != 10)
      match s.bytes.drop line.length with
      | [] => (.ok (line, false), p.advance d line.length ⟨[], s.cycle⟩)
      | _ :: rest => (.ok (line, true), p.advance d (line.length + 1) ⟨rest, s.cycle⟩)
    | .error f => (.error f, p)

/-! ## Writing -/

/-- Content with bytes written over it from an offset on; a gap is filled with zeros. -/
def overwrite (content : Bytes) (offset : Nat) (b : Bytes) : Bytes :=
  content.take offset ++ List.replicate (offset - content.length) 0 ++ b ++
    content.drop (offset + b.length)

/-- Writes to a descriptor. -/
def write (p : Process) (n : Nat) (s : Source) : Option IoFault × Process :=
  match p.descriptor? n with
  | none => (if s.isEmpty then none else some .badDescriptor, p)
  | some d =>
    if s.isEmpty then (none, p)
    else if !d.writable then (some .badDescriptor, p)
    else
      match p.handles[d.handle]? with
      | some (.pipe stream) => (none, p.setHandle d.handle (.pipe (stream.write s)))
      | some (.file place offset append) =>
        match p.files.entry? place with
        | some (.file mode content) =>
          let offset := if append then content.length else offset
          let files := p.files.put place (.file mode (overwrite content offset s.bytes))
          (none, { p with files }.setHandle d.handle
            (.file place (offset + s.bytes.length) append))
        | _ => (none, p)
      | _ => (none, p)

/-- Writes to the standard output, and keeps the first fault in mind. -/
def put (s : Source) (p : Process) : Process :=
  let (fault, p) := p.write 1 s
  { p with writeFault := p.writeFault.or fault }

/-- Writes to the standard error stream. -/
def say (text : String) (p : Process) : Process :=
  (p.write 2 (.ofBytes (Octets.toBytes text.toList))).2

end Process

end BenchRoster
