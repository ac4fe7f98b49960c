/-
# Suites and their registration

A suite is a name with a roster.  Registering it is one sweep: each backend is loaded in the order
of declaration, and is then either declared to a registrar or reported to a sink of diagnostics,
before the next one is tried.  A registrar may end the sweep by a panic of its own.
-/
import BenchRoster.Loader

namespace BenchRoster

/-- A named roster. -/
structure Suite (τ : Type) where
  name : SuiteName
  roster : Roster τ

namespace Suite

variable {τ : Type}

/-- Makes a suite: the name is checked first, then that the names of the backends differ. -/
def ofList (name : String) (ds : List (Descriptor τ)) : Except Rejection (Suite τ) := do
  let name ← SuiteName.ofString name
  let roster ← Roster.ofList ds
  .ok ⟨name, roster⟩

end Suite

/-- What a sweep has done. -/
structure Summary where
  suite : SuiteName
  registered : List BackendName
  skipped : List LoadFailure
deriving DecidableEq

namespace Summary

/-- The number of backends that were tried. -/
def attempted (s : Summary) : Nat := s.registered.length + s.skipped.length

def allRegistered (s : Summary) : Bool := s.skipped.isEmpty

end Summary

/-- Receives the failures of a sweep. -/
abbrev Sink (τ δ : Type) := LoadFailure → δ → World τ → δ × World τ

/-- Keeps the diagnostics as lines, in the order in which they are reported. -/
def Sink.lines (τ : Type) : Sink τ (List String) := fun f ls w => (ls ++ [f.message], w)

/-- What a suite is registered with.  A declared backend may be called at once, and then the
registrar may panic; `σ` is what it keeps while a suite is open, `ρ` what it keeps for good. -/
structure Registrar (τ ρ σ : Type) where
  openSuite : SuiteName → ρ → σ
  declare : LoadedBackend τ → σ → World τ → Except Payload σ × World τ
  closeSuite : σ → ρ → ρ

/-- A sweep under way. -/
structure Sweep (σ δ : Type) where
  scope : σ
  registered : List BackendName := []
  skipped : List LoadFailure := []
  sink : δ

namespace Sweep

variable {τ ρ σ δ : Type}

/-- Loads one backend, and declares it or reports the failure. -/
def step (rg : Registrar τ ρ σ) (l : Loader τ) (report : Sink τ δ) (d : Descriptor τ)
    (s : Sweep σ δ) (w : World τ) : Except Payload (Sweep σ δ) × World τ :=
  match l.load d w with
  | (.ok b, w) =>
    match rg.declare b s.scope w with
    | (.ok scope, w) => (.ok { s with scope, registered := s.registered ++ [b.name] }, w)
    | (.error p, w) => (.error p, w)
  -- a backend that cannot be loaded is reported before the next one is tried
  | (.error f, w) =>
    (.ok { s with skipped := s.skipped ++ [f], sink := (report f s.sink w).1 },
      (report f s.sink w).2)

/-- Goes through the backends in order; a panic of the registrar ends the sweep. -/
def run (rg : Registrar τ ρ σ) (l : Loader τ) (report : Sink τ δ) :
    List (Descriptor τ) → Sweep σ δ → World τ → Except Payload (Sweep σ δ) × World τ
  | [], s, w => (.ok s, w)
  | d :: ds, s, w =>
    match step rg l report d s w with
    | (.ok s, w) => run rg l report ds s w
    | (.error p, w) => (.error p, w)

theorem run_nil (rg : Registrar τ ρ σ) (l : Loader τ) (report : Sink τ δ) (s : Sweep σ δ)
    (w : World τ) : run rg l report [] s w = (.ok s, w) := rfl

theorem run_cons_ok {rg : Registrar τ ρ σ} {l : Loader τ} {report : Sink τ δ} {d : Descriptor τ}
    {ds : List (Descriptor τ)} {s t : Sweep σ δ} {w v : World τ}
    (h : step rg l report d s w = (.ok t, v)) :
    run rg l report (d :: ds) s w = run rg l report ds t v := by
  simp [run, h]

theorem run_cons_error {rg : Registrar τ ρ σ} {l : Loader τ} {report : Sink τ δ} {d : Descriptor τ}
    {ds : List (Descriptor τ)} {s : Sweep σ δ} {w v : World τ} {p : Payload}
    (h : step rg l report d s w = (.error p, v)) :
    run rg l report (d :: ds) s w = (.error p, v) := by
  simp [run, h]

end Sweep

/-- What registering a suite gives: the summary, what the registrar keeps, and the sink. -/
structure Registration (ρ δ : Type) where
  summary : Summary
  kept : ρ
  sink : δ

namespace Suite

variable {τ ρ σ δ : Type}

/-- Registers a suite with a registrar. -/
def register (s : Suite τ) (rg : Registrar τ ρ σ) (l : Loader τ) (report : Sink τ δ) (kept : ρ)
    (sink : δ) (w : World τ) : Except Payload (Registration ρ δ) × World τ :=
  let begun : Sweep σ δ := { scope := rg.openSuite s.name kept, sink }
  match Sweep.run rg l report s.roster.descriptors begun w with
  | (.ok t, w) =>
    (.ok ⟨⟨s.name, t.registered, t.skipped⟩, rg.closeSuite t.scope kept, t.sink⟩, w)
  | (.error p, w) => (.error p, w)

end Suite

/-- Checks a definition and registers it; a rejected one leaves everything as it is. -/
def registerSuite {τ ρ σ δ : Type} (rg : Registrar τ ρ σ) (name : String) (ds : List (Descriptor τ))
    (l : Loader τ) (report : Sink τ δ) (kept : ρ) (sink : δ) (w : World τ) :
    Except Rejection (Except Payload (Registration ρ δ) × World τ) :=
  (Suite.ofList name ds).map fun s => s.register rg l report kept sink w

end BenchRoster
