/-
# Transforming by a program

A program is given the source on its standard input, and what it writes is the result.  A program
that does not end well is reported with how it ended and the last part of its complaints.
-/
import BenchRoster.Machine
import BenchRoster.Text.Blank

namespace BenchRoster

/-- How many bytes of the complaints are kept. -/
def complaintBytes : Nat := 512

/-- The last part of the complaints of a program, as text without blanks at its ends. -/
def complaintTail (b : Bytes) : String :=
  Text.trim (Text.ofUtf8Lossy (b.drop (b.length - complaintBytes)))

/-- Why a source could not be transformed. -/
inductive TransformError where
  /-- The program could not be started. -/
  | spawn (program : String) (fault : IoFault)
  /-- The program could not be given its input, or its output could not be read. -/
  | io (program : String) (fault : IoFault)
  | failed (program : String) (status : ExitStatus) (complaints : String)
  /-- A backend that is no program says why. -/
  | backend (reason : String)
deriving DecidableEq, Repr

namespace TransformError

def message : TransformError → String
  | spawn program f => s!"failed to spawn {program}: {f.message}"
  | io program f => s!"IO error talking to {program}: {f.message}"
  | failed program status complaints => s!"{program} exited with {status.message}: {complaints}"
  | backend reason => s!"transform failed: {reason}"

end TransformError

/-- The result of a program that has ended: what it wrote, or how it failed. -/
def Finished.result (r : Finished) (program : String) : Except TransformError Bytes :=
  if r.status.isSuccess then .ok r.output
  else .error (.failed program r.status (complaintTail r.errors))

/-- Runs a program on a source. -/
def Machine.transform (m : Machine) (program : String) (args : List String) (source : String) :
    Except TransformError Bytes × Machine :=
  match m.runProgram program args (Text.utf8 source) with
  | (.error f, m) => (.error (.spawn program f), m)
  | (.ok r, m) => (r.result program, m)

namespace Machine

/-- A program changes nothing of a machine but its files. -/
theorem runProgram_snd (m : Machine) (program : String) (args : List String) (input : Bytes) :
    (m.runProgram program args input).2 =
      { m with files := (m.runProgram program args input).2.files } := by
  rw [runProgram]
  split
  · rfl
  · dsimp only
    split <;> rfl

theorem transform_snd (m : Machine) (program : String) (args : List String) (source : String) :
    (m.transform program args source).2 =
      { m with files := (m.transform program args source).2.files } := by
  have h := m.runProgram_snd program args (Text.utf8 source)
  rw [transform]
  rcases hr : m.runProgram program args (Text.utf8 source) with ⟨f | r, m'⟩
  · rw [hr] at h
    exact h
  · rw [hr] at h
    exact h

/-- The machine after a program is known by its files. -/
theorem transform_snd_of_entries {m : Machine} {program : String} {args : List String}
    {source : String} {files : FileSystem}
    (h : (m.transform program args source).2.files.entries = files.entries) :
    (m.transform program args source).2 = { m with files } := by
  have hf : (m.transform program args source).2.files = files := congrArg FileSystem.mk h
  rw [transform_snd, hf]

end Machine

end BenchRoster
