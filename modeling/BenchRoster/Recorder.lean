/-
# Recording registrar

A registrar that keeps the declared backends without calling them, suite by suite in the order of
their registration.
-/
import BenchRoster.Suite

namespace BenchRoster

/-- A registered suite with the backends that were declared. -/
structure RecordedSuite (τ : Type) where
  name : SuiteName
  benchmarks : List (LoadedBackend τ) := []

namespace RecordedSuite

variable {τ : Type}

/-- The names of the backends in the order of declaration. -/
def names (s : RecordedSuite τ) : List BackendName := s.benchmarks.map (·.name)

/-- The first backend of that name. -/
def benchmark? (s : RecordedSuite τ) (name : String) : Option (LoadedBackend τ) :=
  s.benchmarks.find? fun b => b.name.text == name

end RecordedSuite

/-- The suites that have been registered. -/
structure Recorder (τ : Type) where
  suites : List (RecordedSuite τ) := []

namespace Recorder

variable {τ : Type}

/-- The first suite of that name. -/
def suite? (r : Recorder τ) (name : String) : Option (RecordedSuite τ) :=
  r.suites.find? fun s => s.name.text == name

/-- The number of backends in all suites. -/
def count (r : Recorder τ) : Nat := (r.suites.flatMap (·.benchmarks)).length

/-- Takes all suites out; an empty recorder is left. -/
def take (r : Recorder τ) : List (RecordedSuite τ) × Recorder τ := (r.suites, {})

/-- Recording as a registrar: nothing is called, and nothing goes wrong. -/
def registrar (τ : Type) : Registrar τ (Recorder τ) (RecordedSuite τ) :=
  { openSuite := fun name _ => { name },
    declare := fun b s w => (.ok { s with benchmarks := s.benchmarks ++ [b] }, w),
    closeSuite := fun s r => ⟨r.suites ++ [s]⟩ }

end Recorder

end BenchRoster
