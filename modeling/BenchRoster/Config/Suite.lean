/-
# Suites from configurations

The backends of a configuration become descriptors of command-line transformers, and its search
directories a loader.
-/
import BenchRoster.Config.File
import BenchRoster.Recorder
import BenchRoster.Resolver.Lookup
import BenchRoster.Timer

namespace BenchRoster

/-- The descriptor of a configured backend. -/
def BackendEntry.descriptor (τ : Type) (e : BackendEntry) : Descriptor τ :=
  { name := e.name, locator := e.locator, adapter := Adapter.command τ e.args e.options e.flag }

namespace Config

/-- The descriptors in the order of declaration. -/
def descriptors (τ : Type) (c : Config) : List (Descriptor τ) :=
  c.backends.map (BackendEntry.descriptor τ)

def roster (τ : Type) (c : Config) : Except Rejection (Roster τ) := Roster.ofList (c.descriptors τ)

/-- The configured suite. -/
def suiteOf (τ : Type) (c : Config) : Except Rejection (Suite τ) :=
  (c.roster τ).map fun r => ⟨c.suite, r⟩

def loader (τ : Type) (c : Config) : Loader τ := { resolver := programResolver τ c.searchPaths }

/-- A timer under the settings of a configuration: one call to warm up and one for each sample. -/
def timer (c : Config) (selects : String → Bool) : Timer :=
  { selects, furtherCalls := c.timing.sampleSize }

end Config

/-- Registers a configured suite with a timer. -/
def timeConfigured {τ : Type} (c : Config) (selects : String → Bool) (w : World τ) :
    Except Rejection
      (Except Payload (Registration (List TimedSuite) (List String)) × World τ) :=
  (c.suiteOf τ).map fun s =>
    s.register (Timer.registrar τ (c.timer selects)) (c.loader τ) (Sink.lines τ) [] [] w

end BenchRoster
