/-
# Timing registrar

A registrar that runs a declared backend at once, unless a filter leaves it out.  How long a call
takes is not its concern here: only how often a backend is called, and that a failing call is a
panic, which ends the registration.
-/
import BenchRoster.Suite

namespace BenchRoster

/-- How a timing registrar runs backends. -/
structure Timer where
  /-- Which identifiers are run. -/
  selects : String → Bool := fun _ => true
  /-- The number of calls after the first one. -/
  furtherCalls : Nat := 0

/-- The backends that have been run, suite by suite. -/
structure TimedSuite where
  name : SuiteName
  timed : List BackendName := []
deriving DecidableEq

namespace Timer

variable {τ : Type}

/-- The identifier of a backend in a suite. -/
def identifier (suite : SuiteName) (backend : BackendName) : String :=
  suite.text ++ "/" ++ backend.text

/-- The text of the panic that a failing call raises. -/
def failureText (name : BackendName) (e : TransformError) : String :=
  s!"backend '{name.text}' failed: {e.message}"

/-- The text of the panic about a filter that is no pattern. -/
def filterText (filter reason : String) : String :=
  s!"Unable to parse '{filter}' as a regular expression: {reason}"

/-- Calls a backend so many times; the first failure ends it. -/
def calls (b : LoadedBackend τ) : Nat → World τ → Except Payload Unit × World τ
  | 0, w => (.ok (), w)
  | n + 1, w =>
    match b.call w with
    | (.done _, w) => calls b n w
    | (.failed e, w) =>
      let p : Payload := .formatted (failureText b.name e)
      (.error p, { w with alarm := w.alarm.sound p })
    | (.panicked p, w) => (.error p, w)

/-- Runs a declared backend if it is selected, and releases it. -/
def declare (t : Timer) (b : LoadedBackend τ) (s : TimedSuite) (w : World τ) :
    Except Payload TimedSuite × World τ :=
  if t.selects (identifier s.name b.name) then
    match calls b (t.furtherCalls + 1) w with
    | (.ok (), w) => (.ok { s with timed := s.timed ++ [b.name] }, b.release w)
    | (.error p, w) => (.error p, b.release w)
  else (.ok s, b.release w)

/-- Timing as a registrar. -/
def registrar (τ : Type) (t : Timer) : Registrar τ (List TimedSuite) TimedSuite :=
  { openSuite := fun name _ => { name },
    declare := t.declare,
    closeSuite := fun s done => done ++ [s] }

end Timer

end BenchRoster
