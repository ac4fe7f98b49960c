/-
# What a sweep with a recorder comes to

A sweep keeps four accounts at once: the backends of the suite that is being recorded, the names of
the registered backends, the failures of the others, and the diagnostics.  All four are functions of
one list, that of the loads: the descriptors in their order, each with what the loader answered in
the world that the loads before it have left.

* `Loader.loadAll` is that list, with the world in which the last load ends;
* `Sweep.run_recording` gives the accounts of a sweep, and `Suite.register_recording` those of a
  registration;
* `Suite.register_partition` says that a registration divides the descriptors of its suite between
  the registered and the skipped backends.
-/
import BenchRoster.Recorder
import Mathlib.Data.List.Basic
import Mathlib.Data.List.Nodup
import Mathlib.Data.List.Perm.Basic
import Mathlib.Tactic.Lemma

namespace BenchRoster

/-- A load that has ended: the descriptor, and what the loader answered. -/
structure Load (τ : Type) where
  descriptor : Descriptor τ
  answer : Except LoadFailure (LoadedBackend τ)

namespace Load

variable {τ : Type}

/-- The descriptor was loaded. -/
def succeeded (a : Load τ) : Bool := a.answer.isOk

@[simp] lemma succeeded_ok (d : Descriptor τ) (b : LoadedBackend τ) :
    succeeded ⟨d, .ok b⟩ = true := rfl

@[simp] lemma succeeded_error (d : Descriptor τ) (f : LoadFailure) :
    succeeded ⟨d, .error f⟩ = false := rfl

/-- The backend, if the descriptor was loaded. -/
def backend? (a : Load τ) : Option (LoadedBackend τ) := a.answer.toOption

/-- The failure, if it was not. -/
def failure? (a : Load τ) : Option LoadFailure :=
  match a.answer with
  | .ok _ => none
  | .error f => some f

/-- The answer is about the descriptor: a backend bears its name, a failure its name and locator. -/
def Attributed (a : Load τ) : Prop :=
  match a.answer with
  | .ok b => b.name = a.descriptor.name
  | .error f => f.backend = a.descriptor.name ∧ f.locator = a.descriptor.locator

end Load

namespace Loader

variable {τ : Type}

/-! ## One load -/

/-- A handle that was found is adapted. -/
lemma attempt_done {l : Loader τ} {d : Descriptor τ} {w v : World τ} {a : Handle τ}
    (h : l.resolver d.locator w = (.done a, v)) :
    l.attempt d w = ((d.adapter a).mapError .adapt) v :=
  Action.bind_done (by simp [Action.mapError, h, Outcome.mapError])

/-- Without a handle nothing is adapted. -/
lemma attempt_failed {l : Loader τ} {d : Descriptor τ} {w v : World τ} {e : ResolveError}
    (h : l.resolver d.locator w = (.failed e, v)) :
    l.attempt d w = (.failed (.resolve e), v) :=
  Action.bind_failed (by simp [Action.mapError, h, Outcome.mapError])

lemma attempt_panicked {l : Loader τ} {d : Descriptor τ} {w v : World τ} {p : Payload}
    (h : l.resolver d.locator w = (.panicked p, v)) :
    l.attempt d w = (.panicked p, v) :=
  Action.bind_panicked (by simp [Action.mapError, h, Outcome.mapError])

/-- An attempt without a cause of failure gives a backend. -/
lemma fst_load_ok {l : Loader τ} {d : Descriptor τ} {w : World τ} {i : Invocation τ}
    (h : cause (l.attempt d { w with alarm := w.alarm.beginLoading }).1 = .ok i) :
    (l.load d w).1 = .ok (i.bound d.name l.workload.source) := by
  simp [load, h]

/-- An attempt with a cause of failure gives a failure of that cause. -/
lemma fst_load_error {l : Loader τ} {d : Descriptor τ} {w : World τ} {e : LoadError}
    (h : cause (l.attempt d { w with alarm := w.alarm.beginLoading }).1 = .error e) :
    (l.load d w).1 = .error ⟨d.name, d.locator, e⟩ := by
  simp [load, h]

/-- A load leaves the world of its attempt, with nothing loading that was not before. -/
lemma snd_load (l : Loader τ) (d : Descriptor τ) (w : World τ) :
    (l.load d w).2 =
      { (l.attempt d { w with alarm := w.alarm.beginLoading }).2 with
        alarm := (l.attempt d { w with alarm := w.alarm.beginLoading }).2.alarm.endLoading
          w.alarm.loading } := by
  unfold load
  dsimp only
  split <;> rfl

/-! ## Loads one after the other -/

/-- Loads descriptors one after the other, each in the world that the one before it has left. -/
def loadAll (l : Loader τ) : List (Descriptor τ) → World τ → List (Load τ) × World τ
  | [], w => ([], w)
  | d :: ds, w =>
    (⟨d, (l.load d w).1⟩ :: (loadAll l ds (l.load d w).2).1, (loadAll l ds (l.load d w).2).2)

@[simp] lemma loadAll_nil (l : Loader τ) (w : World τ) : l.loadAll [] w = ([], w) := rfl

/-- There is one load for each descriptor, in the same order. -/
@[simp] lemma map_descriptor_loadAll (l : Loader τ) (ds : List (Descriptor τ)) (w : World τ) :
    (l.loadAll ds w).1.map Load.descriptor = ds := by
  induction ds generalizing w with
  | nil => rfl
  | cons d ds ih => rw [loadAll, List.map_cons, ih]

lemma attributed_load (l : Loader τ) (d : Descriptor τ) (w : World τ) :
    Load.Attributed ⟨d, (l.load d w).1⟩ := by
  rcases h : l.load d w with ⟨f | b, v⟩
  · exact load_error h
  · exact load_ok h

lemma attributed_loadAll (l : Loader τ) (ds : List (Descriptor τ)) (w : World τ) :
    ∀ a ∈ (l.loadAll ds w).1, a.Attributed := by
  induction ds generalizing w with
  | nil => simp
  | cons d ds ih =>
    intro a ha
    rw [loadAll, List.mem_cons] at ha
    rcases ha with rfl | ha
    · exact attributed_load l d w
    · exact ih _ a ha

end Loader

/-! ## The accounts as functions of the loads -/

section Accounts

variable {τ : Type}

/-- The backends that were loaded. -/
def loaded (as : List (Load τ)) : List (LoadedBackend τ) := as.filterMap Load.backend?

/-- The failures of the others. -/
def failures (as : List (Load τ)) : List LoadFailure := as.filterMap Load.failure?

@[simp] lemma loaded_nil : loaded ([] : List (Load τ)) = [] := rfl

@[simp] lemma failures_nil : failures ([] : List (Load τ)) = [] := rfl

@[simp] lemma loaded_ok (d : Descriptor τ) (b : LoadedBackend τ) (as : List (Load τ)) :
    loaded (⟨d, .ok b⟩ :: as) = b :: loaded as := rfl

@[simp] lemma loaded_error (d : Descriptor τ) (f : LoadFailure) (as : List (Load τ)) :
    loaded (⟨d, .error f⟩ :: as) = loaded as := rfl

@[simp] lemma failures_ok (d : Descriptor τ) (b : LoadedBackend τ) (as : List (Load τ)) :
    failures (⟨d, .ok b⟩ :: as) = failures as := rfl

@[simp] lemma failures_error (d : Descriptor τ) (f : LoadFailure) (as : List (Load τ)) :
    failures (⟨d, .error f⟩ :: as) = f :: failures as := rfl

lemma loaded_cons (a : Load τ) (as : List (Load τ)) :
    loaded (a :: as) = loaded [a] ++ loaded as := by
  rw [← List.singleton_append, loaded, List.filterMap_append, loaded, loaded]

lemma failures_cons (a : Load τ) (as : List (Load τ)) :
    failures (a :: as) = failures [a] ++ failures as := by
  rw [← List.singleton_append, failures, List.filterMap_append, failures, failures]

/-- The loaded backends bear the names of the descriptors that were loaded. -/
lemma map_name_loaded {as : List (Load τ)} (h : ∀ a ∈ as, a.Attributed) :
    (loaded as).map (·.name) = (as.filter Load.succeeded).map (·.descriptor.name) := by
  induction as with
  | nil => rfl
  | cons a as ih =>
    obtain ⟨ha, has⟩ := List.forall_mem_cons.1 h
    obtain ⟨d, f | b⟩ := a
    · rw [loaded_error, List.filter_cons_of_neg (by simp)]
      exact ih has
    · have hb : b.name = d.name := ha
      rw [loaded_ok, List.filter_cons_of_pos (by simp), List.map_cons, List.map_cons, hb, ih has]

/-- The failures bear the names and the locators of the descriptors that were not loaded. -/
lemma map_backend_locator_failures {as : List (Load τ)} (h : ∀ a ∈ as, a.Attributed) :
    ((failures as).map fun f => (f.backend, f.locator)) =
      (as.filter (!·.succeeded)).map fun a => (a.descriptor.name, a.descriptor.locator) := by
  induction as with
  | nil => rfl
  | cons a as ih =>
    obtain ⟨ha, has⟩ := List.forall_mem_cons.1 h
    obtain ⟨d, f | b⟩ := a
    · have hf : f.backend = d.name ∧ f.locator = d.locator := ha
      rw [failures_error, List.filter_cons_of_pos (by simp), List.map_cons, List.map_cons, hf.1,
        hf.2, ih has]
    · rw [failures_ok, List.filter_cons_of_neg (by simp)]
      exact ih has

lemma map_backend_failures {as : List (Load τ)} (h : ∀ a ∈ as, a.Attributed) :
    (failures as).map (·.backend) = (as.filter (!·.succeeded)).map (·.descriptor.name) := by
  have hp := congrArg (List.map Prod.fst) (map_backend_locator_failures h)
  simpa only [List.map_map, Function.comp_def] using hp

/-- Together the loaded backends and the failures bear the names of all descriptors. -/
lemma names_perm {as : List (Load τ)} (h : ∀ a ∈ as, a.Attributed) :
    ((loaded as).map (·.name) ++ (failures as).map (·.backend)).Perm
      (as.map (·.descriptor.name)) := by
  rw [map_name_loaded h, map_backend_failures h, ← List.map_append]
  exact (List.filter_append_perm _ as).map _

/-- Where the descriptors differ in their names, that of a load is among the names of the loaded
backends exactly when the load succeeded. -/
lemma mem_map_name_loaded_iff {as : List (Load τ)} (h : ∀ a ∈ as, a.Attributed)
    (hn : (as.map (·.descriptor.name)).Nodup) {a : Load τ} (ha : a ∈ as) :
    a.descriptor.name ∈ (loaded as).map (·.name) ↔ a.succeeded = true := by
  rw [map_name_loaded h, List.mem_map]
  constructor
  · rintro ⟨b, hb, he⟩
    obtain ⟨hb, hs⟩ := List.mem_filter.1 hb
    rwa [List.inj_on_of_nodup_map hn hb ha he] at hs
  · intro hs
    exact ⟨a, List.mem_filter.2 ⟨ha, hs⟩, rfl⟩

/-- It is among the names of the failures exactly when the load did not succeed. -/
lemma mem_map_backend_failures_iff {as : List (Load τ)} (h : ∀ a ∈ as, a.Attributed)
    (hn : (as.map (·.descriptor.name)).Nodup) {a : Load τ} (ha : a ∈ as) :
    a.descriptor.name ∈ (failures as).map (·.backend) ↔ a.succeeded = false := by
  rw [map_backend_failures h, List.mem_map]
  constructor
  · rintro ⟨b, hb, he⟩
    obtain ⟨hb, hs⟩ := List.mem_filter.1 hb
    rw [List.inj_on_of_nodup_map hn hb ha he] at hs
    simpa using hs
  · intro hs
    exact ⟨a, List.mem_filter.2 ⟨ha, by simp [hs]⟩, rfl⟩

end Accounts

/-! ## One step, and the whole sweep -/

namespace Sweep

variable {τ ρ σ δ : Type}

/-- A loaded backend is declared, and its name is kept. -/
lemma step_ok {rg : Registrar τ ρ σ} {l : Loader τ} {report : Sink τ δ} {d : Descriptor τ}
    {s : Sweep σ δ} {w v u : World τ} {b : LoadedBackend τ} {scope : σ}
    (hl : l.load d w = (.ok b, v)) (hd : rg.declare b s.scope v = (.ok scope, u)) :
    step rg l report d s w = (.ok { s with scope, registered := s.registered ++ [b.name] }, u) := by
  simp [step, hl, hd]

/-- A failure is reported, and kept. -/
lemma step_error {rg : Registrar τ ρ σ} {l : Loader τ} {report : Sink τ δ} {d : Descriptor τ}
    {s : Sweep σ δ} {w v : World τ} {f : LoadFailure} (hl : l.load d w = (.error f, v)) :
    step rg l report d s w =
      (.ok { s with skipped := s.skipped ++ [f], sink := (report f s.sink v).1 },
        (report f s.sink v).2) := by
  simp [step, hl]

section

variable {rg : Registrar τ ρ σ} {l : Loader τ} {report : Sink τ δ} {d : Descriptor τ}
  {ds : List (Descriptor τ)} {s t : Sweep σ δ} {w v : World τ}

/-- All that a step that goes on can have done: the load has failed, and the failure is reported and
kept, or the backend is declared, and its name is kept. -/
lemma step_cases (h : step rg l report d s w = (.ok t, v)) :
    (∃ f u, l.load d w = (.error f, u) ∧
      t = { s with skipped := s.skipped ++ [f], sink := (report f s.sink u).1 } ∧
      v = (report f s.sink u).2) ∨
    ∃ b u scope, l.load d w = (.ok b, u) ∧ rg.declare b s.scope u = (.ok scope, v) ∧
      t = { s with scope, registered := s.registered ++ [b.name] } := by
  rcases hl : l.load d w with ⟨f | b, u⟩
  · rw [step_error hl] at h
    cases h
    exact .inl ⟨f, u, rfl, rfl, rfl⟩
  · rcases hd : rg.declare b s.scope u with ⟨p | scope, x⟩
    · simp [step, hl, hd] at h
    · rw [step_ok hl hd] at h
      cases h
      exact .inr ⟨b, u, scope, rfl, hd, rfl⟩

/-- A sweep that ends goes on from its first step. -/
lemma run_cons_inv (h : run rg l report (d :: ds) s w = (.ok t, v)) :
    ∃ s' w', step rg l report d s w = (.ok s', w') ∧ run rg l report ds s' w' = (.ok t, v) := by
  rcases hs : step rg l report d s w with ⟨p | s', w'⟩
  · rw [run_cons_error hs] at h
    cases h
  · exact ⟨s', w', rfl, (run_cons_ok hs).symm.trans h⟩

/-- Whatever the registrar does with a backend, a step goes on by one load. -/
lemma step_accounts (h : step rg l report d s w = (.ok t, v)) :
    t.registered = s.registered ++ (loaded [⟨d, (l.load d w).1⟩]).map (·.name) ∧
      t.skipped = s.skipped ++ failures [⟨d, (l.load d w).1⟩] := by
  obtain ⟨f, u, hl, rfl, -⟩ | ⟨b, u, scope, hl, -, rfl⟩ := step_cases h
  · rw [hl]
    simp
  · rw [hl]
    simp

end

/-- A sweep of a recorder that has gone on by some loads. -/
def extend (s : Sweep (RecordedSuite τ) (List String)) (as : List (Load τ)) :
    Sweep (RecordedSuite τ) (List String) where
  scope := { s.scope with benchmarks := s.scope.benchmarks ++ loaded as }
  registered := s.registered ++ (loaded as).map (·.name)
  skipped := s.skipped ++ failures as
  sink := s.sink ++ (failures as).map (·.message)

@[simp] lemma extend_nil (s : Sweep (RecordedSuite τ) (List String)) : s.extend [] = s := by
  simp [extend]

/-- A step with a recorder goes on by one load. -/
lemma step_recording (l : Loader τ) (d : Descriptor τ) (s : Sweep (RecordedSuite τ) (List String))
    (w : World τ) :
    step (Recorder.registrar τ) l (Sink.lines τ) d s w =
      (.ok (s.extend [⟨d, (l.load d w).1⟩]), (l.load d w).2) := by
  rcases h : l.load d w with ⟨f | b, v⟩
  · rw [step_error h]
    simp [extend, Sink.lines]
  · rw [step_ok h (show (Recorder.registrar τ).declare b s.scope v = _ from rfl)]
    simp [extend]

lemma extend_cons (s : Sweep (RecordedSuite τ) (List String)) (a : Load τ) (as : List (Load τ)) :
    s.extend (a :: as) = (s.extend [a]).extend as := by
  rw [extend, loaded_cons, failures_cons]
  simp [extend]

/-- A sweep with a recorder never panics, and its accounts grow by those of its loads. -/
lemma run_recording (l : Loader τ) (ds : List (Descriptor τ))
    (s : Sweep (RecordedSuite τ) (List String)) (w : World τ) :
    run (Recorder.registrar τ) l (Sink.lines τ) ds s w =
      (.ok (s.extend (l.loadAll ds w).1), (l.loadAll ds w).2) := by
  induction ds generalizing s w with
  | nil => simp [run_nil]
  | cons d ds ih => rw [run_cons_ok (step_recording l d s w), ih, Loader.loadAll, ← extend_cons]

end Sweep

namespace Suite

variable {τ : Type}

/-- The loads of a registration. -/
def loads (s : Suite τ) (l : Loader τ) (w : World τ) : List (Load τ) :=
  (l.loadAll s.roster.descriptors w).1

lemma attributed_loads (s : Suite τ) (l : Loader τ) (w : World τ) :
    ∀ a ∈ s.loads l w, a.Attributed :=
  l.attributed_loadAll s.roster.descriptors w

lemma map_descriptor_name_loads (s : Suite τ) (l : Loader τ) (w : World τ) :
    (s.loads l w).map (·.descriptor.name) = s.roster.names := by
  rw [Roster.names, ← l.map_descriptor_loadAll s.roster.descriptors w, List.map_map]
  rfl

/-- What registering a suite with a recorder gives, by its loads. -/
lemma register_recording (s : Suite τ) (l : Loader τ) (r : Recorder τ) (ls : List String)
    (w : World τ) :
    s.register (Recorder.registrar τ) l (Sink.lines τ) r ls w =
      (.ok ⟨⟨s.name, (loaded (s.loads l w)).map (·.name), failures (s.loads l w)⟩,
          ⟨r.suites ++ [⟨s.name, loaded (s.loads l w)⟩]⟩,
          ls ++ (failures (s.loads l w)).map (·.message)⟩,
        (l.loadAll s.roster.descriptors w).2) := by
  rw [register, Sweep.run_recording]
  rfl

/-- The registered and the skipped names together are the names of the roster. -/
lemma registered_skipped_perm (s : Suite τ) (l : Loader τ) (w : World τ) :
    ((loaded (s.loads l w)).map (·.name) ++ (failures (s.loads l w)).map (·.backend)).Perm
      s.roster.names := by
  rw [← s.map_descriptor_name_loads l w]
  exact names_perm (s.attributed_loads l w)

lemma length_registered_add_skipped (s : Suite τ) (l : Loader τ) (w : World τ) :
    ((loaded (s.loads l w)).map (·.name)).length + (failures (s.loads l w)).length =
      s.roster.size := by
  have hp := (s.registered_skipped_perm l w).length_eq
  have hn : s.roster.names.length = s.roster.size := List.length_map _
  rw [hn, List.length_append] at hp
  simpa only [List.length_map] using hp

/-- A name of the roster is in one of the two lists, once, and no other name is in any. -/
lemma count_registered_add_skipped (s : Suite τ) (l : Loader τ) (w : World τ) (n : BackendName) :
    ((loaded (s.loads l w)).map (·.name)).count n +
        ((failures (s.loads l w)).map (·.backend)).count n =
      if n ∈ s.roster.names then 1 else 0 := by
  rw [← List.count_append, (s.registered_skipped_perm l w).count_eq]
  exact List.Nodup.count s.roster.distinct

/-- The names of the recorded backends differ. -/
lemma nodup_loaded (s : Suite τ) (l : Loader τ) (w : World τ) :
    ((loaded (s.loads l w)).map (·.name)).Nodup :=
  (List.nodup_append.1 ((s.registered_skipped_perm l w).nodup_iff.2 s.roster.distinct)).1

/-- **A registration divides the descriptors of its suite.**  With a recorder and any resolver and
adapters, it never panics; the registered names are those of the descriptors that were loaded, the
skipped failures are those of the others, both in the order of declaration, and each name of the
roster is in one of the two lists, once.  The recorder gains one suite with the registered
backends, and the sink the diagnostics of the failures; what they held before stays. -/
theorem register_partition (s : Suite τ) (l : Loader τ) (r : Recorder τ) (ls : List String)
    (w : World τ) :
    ∃ g v, s.register (Recorder.registrar τ) l (Sink.lines τ) r ls w = (.ok g, v) ∧
      -- the loads, one for each descriptor, each in the world that the ones before have left
      l.loadAll s.roster.descriptors w = (s.loads l w, v) ∧
      (s.loads l w).map Load.descriptor = s.roster.descriptors ∧
      -- the summary
      g.summary.suite = s.name ∧
      g.summary.registered =
        ((s.loads l w).filter Load.succeeded).map (·.descriptor.name) ∧
      g.summary.skipped = failures (s.loads l w) ∧
      (g.summary.skipped.map fun f => (f.backend, f.locator)) =
        ((s.loads l w).filter (!·.succeeded)).map
          (fun a => (a.descriptor.name, a.descriptor.locator)) ∧
      g.summary.attempted = s.roster.size ∧
      (∀ n, g.summary.registered.count n + (g.summary.skipped.map (·.backend)).count n =
        if n ∈ s.roster.names then 1 else 0) ∧
      -- the recorder and the sink
      (∃ q, g.kept.suites = r.suites ++ [q] ∧ q.name = s.name ∧
        q.benchmarks = loaded (s.loads l w) ∧
        q.names = g.summary.registered ∧ q.names.Nodup) ∧
      g.sink = ls ++ g.summary.skipped.map (·.message) := by
  exact ⟨_, _, s.register_recording l r ls w, rfl, l.map_descriptor_loadAll _ w, rfl,
    map_name_loaded (s.attributed_loads l w), rfl,
    map_backend_locator_failures (s.attributed_loads l w), s.length_registered_add_skipped l w,
    s.count_registered_add_skipped l w, ⟨_, rfl, rfl, rfl, rfl, s.nodup_loaded l w⟩, rfl⟩

end Suite

end BenchRoster
