/-
# Loading backends

A loader turns one descriptor into an invocation that is bound to the workload.  Each load stands
on its own: whatever goes wrong, a panic included, becomes a failure of that backend alone, with
the first cause.  The main statements say that loading never panics, that it succeeds exactly when
the resolver and then the adapter do, and that whether something is loading is afterwards what it
was before.
-/
import BenchRoster.Roster
import BenchRoster.Workload

namespace BenchRoster

/-- Why a backend could not be loaded. -/
inductive LoadError where
  | resolve (e : ResolveError)
  | adapt (e : AdaptError)
  | panicked (message : String)
deriving DecidableEq

def LoadError.message : LoadError → String
  | resolve e => e.message
  | adapt e => e.message
  | panicked message => s!"panicked while loading: {message}"

/-- A backend that could not be loaded. -/
structure LoadFailure where
  backend : BackendName
  locator : Locator
  error : LoadError
deriving DecidableEq

/-- The diagnostic of a failure. -/
def LoadFailure.message (f : LoadFailure) : String :=
  s!"Cannot load {f.locator.text} for backend '{f.backend.text}': {f.error.message}"

/-- A backend that can be called: its invocation is bound to the workload. -/
structure LoadedBackend (τ : Type) where
  name : BackendName
  call : Action τ TransformError Bytes
  release : World τ → World τ

/-- Binds an invocation to a source. -/
def Invocation.bound {τ : Type} (i : Invocation τ) (name : BackendName) (source : String) :
    LoadedBackend τ :=
  { name, call := i.call source, release := i.release }

structure Loader (τ : Type) where
  resolver : Resolver τ
  workload : Workload := Workload.fixed

namespace Loader

variable {τ : Type}

/-- Finds the handle of a descriptor and adapts it. -/
def attempt (l : Loader τ) (d : Descriptor τ) : Action τ LoadError (Invocation τ) :=
  ((l.resolver d.locator).mapError .resolve).bind fun h => (d.adapter h).mapError .adapt

/-- The cause of a failed attempt. -/
def cause {α : Type} : Outcome LoadError α → Except LoadError α
  | .done a => .ok a
  | .failed e => .error e
  | .panicked p => .error (.panicked p.message)

/-- Loads one backend. -/
def load (l : Loader τ) (d : Descriptor τ) (w : World τ) :
    Except LoadFailure (LoadedBackend τ) × World τ :=
  let r := l.attempt d { w with alarm := w.alarm.beginLoading }
  let after : World τ := { r.2 with alarm := r.2.alarm.endLoading w.alarm.loading }
  match cause r.1 with
  | .ok i => (.ok (i.bound d.name l.workload.source), after)
  | .error e => (.error ⟨d.name, d.locator, e⟩, after)

/-- Whether something is loading is after a load what it was before. -/
theorem load_loading (l : Loader τ) (d : Descriptor τ) (w : World τ) :
    (l.load d w).2.alarm.loading = w.alarm.loading := by
  unfold load
  dsimp only
  split <;> rfl

/-- A load succeeds exactly when the resolver finds a handle and the adapter makes an invocation. -/
theorem load_isOk_iff (l : Loader τ) (d : Descriptor τ) (w : World τ) :
    (l.load d w).1.isOk = true ↔
      ∃ i v, l.attempt d { w with alarm := w.alarm.beginLoading } = (.done i, v) := by
  unfold load
  rcases l.attempt d { w with alarm := w.alarm.beginLoading } with ⟨_ | _ | _, v⟩ <;>
    simp [cause, Except.isOk, Except.toBool]

/-- A failure bears the name and the locator of the descriptor. -/
theorem load_error {l : Loader τ} {d : Descriptor τ} {w v : World τ} {f : LoadFailure}
    (h : l.load d w = (.error f, v)) : f.backend = d.name ∧ f.locator = d.locator := by
  unfold load at h
  dsimp only at h
  split at h
  · simp at h
  · obtain ⟨h, -⟩ := Prod.mk.injEq .. ▸ h
    cases h
    exact ⟨rfl, rfl⟩

/-- A loaded backend bears the name of the descriptor. -/
theorem load_ok {l : Loader τ} {d : Descriptor τ} {w v : World τ} {b : LoadedBackend τ}
    (h : l.load d w = (.ok b, v)) : b.name = d.name := by
  unfold load at h
  dsimp only at h
  split at h
  · obtain ⟨h, -⟩ := Prod.mk.injEq .. ▸ h
    cases h
    rfl
  · simp at h

end Loader

end BenchRoster
