/-
# Dry runs

A dry run registers a configured suite with a recorder, and may then call each registered backend
once.  Its report lists the registered backends, the diagnostics of the others, the calls, and the
numbers of both kinds.
-/
import BenchRoster.Config.Suite

namespace BenchRoster

/-- The outcome of calling a backend once. -/
structure CallResult where
  name : BackendName
  result : Except TransformError Bytes

/-- What a dry run has found. -/
structure Checked where
  summary : Summary
  diagnostics : List String
  calls : List CallResult

namespace Checked

variable {τ : Type}

/-- Calls backends once each, in their order; a failing one does not keep the others from being
called. -/
def callAll : List (LoadedBackend τ) → World τ → Except Payload (List CallResult) × World τ
  | [], w => (.ok [], w)
  | b :: bs, w =>
    let goOn (r : Except TransformError Bytes) (w : World τ) :
        Except Payload (List CallResult) × World τ :=
      match callAll bs w with
      | (.ok rs, w) => (.ok (⟨b.name, r⟩ :: rs), w)
      | (.error p, w) => (.error p, w)
    match b.call w with
    | (.done out, w) => goOn (.ok out) w
    | (.failed e, w) => goOn (.error e) w
    | (.panicked p, w) => (.error p, w)

/-- Registers a suite with an empty recorder, and calls what was registered if asked to. -/
def ofSuite (s : Suite τ) (l : Loader τ) (invoke : Bool) (w : World τ) :
    Except Payload Checked × World τ :=
  match s.register (Recorder.registrar τ) l (Sink.lines τ) {} [] w with
  | (.error p, w) => (.error p, w)
  | (.ok r, w) =>
    if invoke then
      match callAll (r.kept.suites.flatMap (·.benchmarks)) w with
      | (.ok calls, w) => (.ok ⟨r.summary, r.sink, calls⟩, w)
      | (.error p, w) => (.error p, w)
    else (.ok ⟨r.summary, r.sink, []⟩, w)

/-- A dry run of a configuration. -/
def ofConfig (c : Config) (invoke : Bool) (w : World τ) :
    Except Rejection (Except Payload Checked × World τ) :=
  (c.suiteOf τ).map fun s => ofSuite s (c.loader τ) invoke w

/-! ## The report -/

/-- Whether a call has failed. -/
def failed (r : CallResult) : Bool :=
  match r.result with
  | .ok _ => false
  | .error _ => true

/-- The line of a call: the number of bytes written, or why it failed. -/
def callLine (r : CallResult) : String :=
  match r.result with
  | .ok out => s!"  ✓ {r.name.text} ({out.length} bytes out)"
  | .error e => s!"  ✗ {r.name.text} - {e.message}"

/-- The lines about calls. -/
def callLines (c : Checked) (invoke : Bool) : List String :=
  if invoke then ["", "Invoking each backend once:"] ++ c.calls.map callLine else []

/-- The lines of the report. -/
def lines (c : Checked) (invoke : Bool) : List String :=
  [s!"Suite: {c.summary.suite.text}", ""] ++
    (c.summary.registered.map fun n => s!"  ✓ {n.text}") ++
    (c.diagnostics.map fun d => s!"  ✗ {d}") ++
    c.callLines invoke ++
    ["", s!"{c.summary.registered.length} registered, {c.summary.skipped.length} skipped"]

/-- Every backend was registered, and no call failed. -/
def allUsable (c : Checked) : Bool := c.summary.allRegistered && !c.calls.any failed

end Checked

end BenchRoster
