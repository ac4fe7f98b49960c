/-
# Programs at the ends of pipes

While a program runs, its caller feeds it the input and collects what it writes.  Three pipes of
bounded capacity lie between the two, and which of the parties acts next is not settled: this module
holds the states of such a conversation and the steps from one to the next.  A step is possible
only where no party would have to wait: a byte is written into a pipe with room, and read from a
pipe that holds one.  Beside it stands what a program does when its input is a list and nothing
holds it up.
-/
import BenchRoster.Transform

namespace BenchRoster

/-- The streams that a program writes. -/
inductive Outlet where
  | output
  | errors
deriving DecidableEq, Repr

/-- Something for each of the written streams. -/
structure PerOutlet (α : Type) where
  output : α
  errors : α
deriving DecidableEq, Repr

namespace PerOutlet

variable {α : Type}

def get (x : PerOutlet α) : Outlet → α
  | .output => x.output
  | .errors => x.errors

def set (x : PerOutlet α) (p : Outlet) (a : α) : PerOutlet α :=
  match p with
  | .output => { x with output := a }
  | .errors => { x with errors := a }

@[simp] theorem get_set_self (x : PerOutlet α) (p : Outlet) (a : α) : (x.set p a).get p = a := by
  cases p <;> rfl

end PerOutlet

/-- What a program does next, and the states from which it goes on.  The only thing that it can look
at is the bytes of its input, one after the other. -/
inductive Move (σ : Type) where
  | exit (status : ExitStatus)
  /-- Reads a byte, or finds that there are no more. -/
  | read (next : Option UInt8 → σ)
  | write (outlet : Outlet) (byte : UInt8) (next : σ)
  | closeInput (next : σ)
  | close (outlet : Outlet) (next : σ)

/-- A deterministic program with its states.  It need not come to an end. -/
structure Program (σ : Type) where
  start : σ
  move : σ → Move σ

/-- What a program has done if it writes a byte first. -/
def Finished.cons (r : Finished) (p : Outlet) (b : UInt8) : Finished :=
  match p with
  | .output => { r with output := b :: r.output }
  | .errors => { r with errors := b :: r.errors }

/-- What comes of a move, given what comes of the states after it, when the input is the list and
all that is written is taken away at once.  A program reads nothing more from an input that it has
closed, and what it writes to a stream that it has closed is lost. -/
def Move.run {σ : Type} (after : σ → PerOutlet Bool → Bytes → Option Finished) :
    Move σ → PerOutlet Bool → Bytes → Option Finished
  | exit status, _, _ => some ⟨status, [], []⟩
  | read next, held, input => after (next input.head?) held input.tail
  | write p b next, held, input =>
    (after next held input).map fun r => if held.get p then r.cons p b else r
  | closeInput next, held, _ => after next held []
  | close p next, held, input => after next (held.set p false) input

namespace Program

variable {σ : Type}

/-- What a program has done from some state on, if it ends within that many moves. -/
def run (p : Program σ) : Nat → σ → PerOutlet Bool → Bytes → Option Finished
  | 0 => fun _ _ _ => none
  | n + 1 => fun q => (p.move q).run (p.run n)

/-- A program that is given the source comes to an end, and has done this by then. -/
def Ends (p : Program σ) (source : Bytes) (r : Finished) : Prop :=
  ∃ n, p.run n p.start ⟨true, true⟩ source = some r

/-- What a program that copies its input is at. -/
inductive Copying where
  | ready
  | holding (byte : UInt8)
  | done

/-- A program that copies its input, as long as there is any. -/
def copy : Program Copying where
  start := .ready
  move
    | .ready => .read fun
      | some b => .holding b
      | none => .done
    | .holding b => .write .output b .ready
    | .done => .exit (.code 0)

end Program

/-- How far the caller has come with the input. -/
inductive Feeding where
  /-- These bytes are still to be written. -/
  | writing (rest : Bytes)
  /-- All has been written, and the caller's end of the pipe is closed. -/
  | finished
  /-- The program had closed its input when a byte was to be written. -/
  | broken
deriving DecidableEq, Repr

/-- The input pipe may still get bytes. -/
def Feeding.isOpen : Feeding → Bool
  | .writing _ => true
  | _ => false

/-- The program, in one of its states or ended. -/
inductive Phase (σ : Type) where
  | running (state : σ)
  | ended (status : ExitStatus)

/-- The number of bytes that each pipe can hold. -/
structure Capacities where
  input : Nat
  written : PerOutlet Nat
deriving DecidableEq, Repr

/-- No pipe is without room for a byte. -/
def Capacities.Positive (c : Capacities) : Prop := 0 < c.input ∧ ∀ p, 0 < c.written.get p

/-- A program and its caller under way. -/
structure Conversation (σ : Type) where
  feeding : Feeding
  phase : Phase σ
  /-- The program has not closed its input. -/
  listening : Bool := true
  /-- The streams that the program has not closed. -/
  held : PerOutlet Bool := ⟨true, true⟩
  /-- The bytes in the input pipe. -/
  inputPipe : Bytes := []
  /-- The bytes in the pipes of the written streams. -/
  pipes : PerOutlet Bytes := ⟨[], []⟩
  /-- What the caller has collected. -/
  collected : PerOutlet Bytes := ⟨[], []⟩

namespace Conversation

variable {σ : Type}

/-- A program that has just been started on a source. -/
def start (p : Program σ) (source : Bytes) : Conversation σ :=
  { feeding := .writing source, phase := .running p.start }

/-- What the program does next, unless it has ended. -/
def move? (p : Program σ) (s : Conversation σ) : Option (Move σ) :=
  match s.phase with
  | .running q => some (p.move q)
  | .ended _ => none

/-- The steps of a conversation with a program over pipes of these capacities. -/
inductive Step (p : Program σ) (c : Capacities) : Conversation σ → Conversation σ → Prop where
  /-- The caller writes a byte of the input. -/
  | feed {s : Conversation σ} {b : UInt8} {rest : Bytes} (hf : s.feeding = .writing (b :: rest))
      (hl : s.listening = true) (room : s.inputPipe.length < c.input) :
      Step p c s { s with feeding := .writing rest, inputPipe := s.inputPipe ++ [b] }
  /-- The caller finds that nobody reads the input. -/
  | breaks {s : Conversation σ} {b : UInt8} {rest : Bytes}
      (hf : s.feeding = .writing (b :: rest)) (hl : s.listening = false) :
      Step p c s { s with feeding := .broken }
  /-- The caller has written all of the input, and closes its end. -/
  | finish {s : Conversation σ} (hf : s.feeding = .writing []) :
      Step p c s { s with feeding := .finished }
  /-- The program reads a byte. -/
  | read {s : Conversation σ} {next : Option UInt8 → σ} {b : UInt8} {rest : Bytes}
      (hm : s.move? p = some (.read next)) (hl : s.listening = true)
      (hi : s.inputPipe = b :: rest) :
      Step p c s { s with phase := .running (next (some b)), inputPipe := rest }
  /-- The program finds that its input has no more bytes. -/
  | readEnd {s : Conversation σ} {next : Option UInt8 → σ}
      (hm : s.move? p = some (.read next))
      (hi : s.listening = false ∨ (s.inputPipe = [] ∧ s.feeding.isOpen = false)) :
      Step p c s { s with phase := .running (next none) }
  /-- The program writes a byte. -/
  | write {s : Conversation σ} {o : Outlet} {b : UInt8} {next : σ}
      (hm : s.move? p = some (.write o b next)) (hh : s.held.get o = true)
      (room : (s.pipes.get o).length < c.written.get o) :
      Step p c s { s with phase := .running next, pipes := s.pipes.set o (s.pipes.get o ++ [b]) }
  /-- The program writes to a stream that it has closed. -/
  | writeLost {s : Conversation σ} {o : Outlet} {b : UInt8} {next : σ}
      (hm : s.move? p = some (.write o b next)) (hh : s.held.get o = false) :
      Step p c s { s with phase := .running next }
  | closeInput {s : Conversation σ} {next : σ} (hm : s.move? p = some (.closeInput next)) :
      Step p c s { s with phase := .running next, listening := false, inputPipe := [] }
  | close {s : Conversation σ} {o : Outlet} {next : σ} (hm : s.move? p = some (.close o next)) :
      Step p c s { s with phase := .running next, held := s.held.set o false }
  /-- The program ends, which closes all its streams. -/
  | exit {s : Conversation σ} {status : ExitStatus} (hm : s.move? p = some (.exit status)) :
      Step p c s { s with
        phase := .ended status, listening := false, held := ⟨false, false⟩, inputPipe := [] }
  /-- The caller takes a byte out of a pipe. -/
  | collect {s : Conversation σ} {o : Outlet} {b : UInt8} {rest : Bytes}
      (ho : s.pipes.get o = b :: rest) :
      Step p c s { s with
        pipes := s.pipes.set o rest, collected := s.collected.set o (s.collected.get o ++ [b]) }

/-- The states that a conversation can come to. -/
inductive Reaches (p : Program σ) (c : Capacities) (s : Conversation σ) :
    Conversation σ → Prop where
  | here : Reaches p c s s
  | step {t u : Conversation σ} (h : Reaches p c s t) (hs : Step p c t u) : Reaches p c s u

/-- What the caller knows when the program has ended, the pipes are empty and the input is done
with; nothing before that.  That the input was not read to its end makes no difference. -/
def finished? (s : Conversation σ) : Option Finished :=
  match s.phase with
  | .running _ => none
  | .ended status =>
    if s.feeding.isOpen = false ∧ s.pipes.output = [] ∧ s.pipes.errors = [] then
      some ⟨status, s.collected.output, s.collected.errors⟩
    else none

/-- The result that the caller gives. -/
def result? (s : Conversation σ) (program : String) : Option (Except TransformError Bytes) :=
  s.finished?.map fun r => r.result program

theorem Reaches.trans {p : Program σ} {c : Capacities} {s t u : Conversation σ}
    (h : Reaches p c s t) (h' : Reaches p c t u) : Reaches p c s u := by
  induction h' with
  | here => exact h
  | step _ hs ih => exact .step ih hs

end Conversation

end BenchRoster
