/-
# Timing a configured suite

Registering a configured suite with a timer is compared with registering it with a recorder.  The
two agree if running a benchmark does not change how the backends after it load; and they may differ
if it does, for the timer runs a program between one load and the next.

* `timeAtPace` registers a configured suite with a timer of any pace, `recordConfigured` with a
  recorder;
* `Config.timing_agrees` is the main statement;
* `Config.Confined` are configurations whose programs keep the machine in a set of machines, which
  is how the assumptions of the main statement are shown to hold.
-/
import BenchRoster.Proofs.Steady
import BenchRoster.Proofs.Timing
import BenchRoster.Proofs.WellFormed

namespace BenchRoster

variable {τ : Type}

/-! ## Programs that keep to some machines -/

namespace Config

/-- The backend of a program. -/
def programBackend (τ : Type) (e : BackendEntry) (path : String) : LoadedBackend τ where
  name := e.name
  call := Action.onMachine fun m => m.transform path e.args Workload.fixed.source
  release := id

/-- Without options a load leaves the machine as it is, and ends by what the look-up finds. -/
lemma load_program (c : Config) {e : BackendEntry} (he : e.options = none) (v : World τ) :
    ((c.loader τ).load (e.descriptor τ) v).2.machine = v.machine ∧
      ((c.loader τ).load (e.descriptor τ) v).1 =
        match Lookup.program v.machine c.searchPaths e.locator with
        | .ok path => .ok (programBackend τ e path)
        | .error f => .error ⟨e.name, e.locator, .resolve f⟩ := by
  have hr : (c.loader τ).resolver e.locator { v with alarm := v.alarm.beginLoading } =
      (.ofExcept ((Lookup.program v.machine c.searchPaths e.locator).map (programHandle τ)),
        { v with alarm := v.alarm.beginLoading }) := programResolver_apply ..
  rcases hp : Lookup.program v.machine c.searchPaths e.locator with f | path
  · rw [hp] at hr
    have ha := Loader.attempt_failed (d := e.descriptor τ) hr
    exact ⟨by rw [Loader.snd_load, ha], Loader.fst_load_error (by rw [ha]; rfl)⟩
  · rw [hp] at hr
    have ha : (c.loader τ).attempt (e.descriptor τ) { v with alarm := v.alarm.beginLoading } =
        (.done { call := fun source => programHandle τ path source e.args },
          { v with alarm := v.alarm.beginLoading }) := by
      rw [Loader.attempt_done (d := e.descriptor τ) hr]
      simp only [BackendEntry.descriptor, Adapter.command, he]
      rfl
    exact ⟨by rw [Loader.snd_load, ha], Loader.fst_load_ok (by rw [ha]; rfl)⟩

/-- No backend has options, and the programs that the look-ups find in some machines lead from these
to machines of the same kind. -/
structure Confined (c : Config) (M : Machine → Prop) : Prop where
  plain : ∀ e ∈ c.backends, e.options = none
  closed : ∀ e ∈ c.backends, ∀ k m path, M k → M m →
    Lookup.program k c.searchPaths e.locator = .ok path →
      M (m.transform path e.args Workload.fixed.source).2

/-- What is held is the backend of a program that was found in one of the machines. -/
def Found (c : Config) (M : Machine → Prop) (x : Descriptor τ × LoadedBackend τ) : Prop :=
  ∃ e ∈ c.backends, x.1 = e.descriptor τ ∧ ∃ k path, M k ∧
    Lookup.program k c.searchPaths e.locator = .ok path ∧ x.2 = programBackend τ e path

section Confined

variable {c : Config} {M : Machine → Prop} {w v : World τ}
  {held : List (Descriptor τ × LoadedBackend τ)}

/-- A program keeps to the machines, wherever it comes, and holds what was found in them. -/
lemma Confined.comes (h : c.Confined M) (hw : M w.machine)
    (hc : (c.loader τ).Comes (c.descriptors τ) w v held) :
    M v.machine ∧ ∀ x ∈ held, c.Found M x := by
  induction hc with
  | start => exact ⟨hw, by simp⟩
  | @loaded d b v u held _ hd hl ih =>
    obtain ⟨e, he, rfl⟩ := List.mem_map.1 hd
    obtain ⟨hm, ha⟩ := load_program (τ := τ) c (h.plain e he) v
    rw [hl] at hm ha
    rcases hp : Lookup.program v.machine c.searchPaths e.locator with f | path
    · rw [hp] at ha
      cases ha
    · rw [hp] at ha
      cases ha
      exact ⟨hm ▸ ih.1, List.forall_mem_cons.2 ⟨⟨e, he, rfl, _, path, ih.1, hp, rfl⟩, ih.2⟩⟩
  | @failed d f v u held _ hd hl ih =>
    obtain ⟨e, he, rfl⟩ := List.mem_map.1 hd
    obtain ⟨hm, -⟩ := load_program (τ := τ) c (h.plain e he) v
    rw [hl] at hm
    exact ⟨hm ▸ ih.1, ih.2⟩
  | @called x v held _ hx ih =>
    obtain ⟨e, he, -, k, path, hk, hp, hb⟩ := ih.2 x hx
    refine ⟨?_, ih.2⟩
    rw [hb]
    exact h.closed e he k v.machine path hk ih.1 hp
  | @released before after x v _ ih =>
    obtain ⟨hm, hf⟩ := ih
    obtain ⟨e, -, -, k, path, -, -, hb⟩ := hf x (by simp)
    refine ⟨by rw [hb]; exact hm, fun y hy => hf y ?_⟩
    rcases List.mem_append.1 hy with hy | hy
    · exact List.mem_append_left _ hy
    · exact List.mem_append_right _ (List.mem_cons_of_mem _ hy)

/-- A call is a run of a program in one of the machines. -/
lemma Confined.exists_of_called (h : c.Confined M) (hw : M w.machine) {d : Descriptor τ}
    {o : Outcome TransformError Bytes} (hc : (c.loader τ).Called (c.descriptors τ) w d o) :
    ∃ e ∈ c.backends, d = e.descriptor τ ∧ ∃ k m path, M k ∧ M m ∧
      Lookup.program k c.searchPaths e.locator = .ok path ∧
      o = .ofExcept (m.transform path e.args Workload.fixed.source).1 := by
  obtain ⟨b, v, held, hv, hb, rfl⟩ := hc
  obtain ⟨hm, hf⟩ := h.comes hw hv
  obtain ⟨e, he, hd, k, path, hk, hp, hx⟩ := hf _ hb
  have hx : b = programBackend τ e path := hx
  exact ⟨e, he, hd, k, v.machine, path, hk, hm, hp, by rw [hx]; rfl⟩

/-- What a program does in the world in which it begins is the outcome of a call. -/
lemma called_program {e : BackendEntry} (he : e ∈ c.backends) (ho : e.options = none)
    {path : String} (hp : Lookup.program w.machine c.searchPaths e.locator = .ok path) :
    (c.loader τ).Called (c.descriptors τ) w (e.descriptor τ)
      (.ofExcept (w.machine.transform path e.args Workload.fixed.source).1) := by
  obtain ⟨hm, ha⟩ := load_program (τ := τ) c ho w
  rw [hp] at ha
  have hc := Loader.Comes.start.loaded (List.mem_map_of_mem he) (Prod.ext ha rfl)
  refine ⟨_, _, _, hc, List.mem_cons_self, ?_⟩
  rw [← hm]
  rfl

/-- If the programs of each backend have one fate in all machines, so has the backend. -/
lemma Confined.uniform (h : c.Confined M) (hw : M w.machine) (succeeds : BackendName → Bool)
    (hs : ∀ e ∈ c.backends, ∀ k m path, M k → M m →
      Lookup.program k c.searchPaths e.locator = .ok path →
        (m.transform path e.args Workload.fixed.source).1.isOk = succeeds e.name) :
    (c.loader τ).Uniform (c.descriptors τ) w := by
  intro d _
  have hall : ∀ o, (c.loader τ).Called (c.descriptors τ) w d o →
      ∃ x : Except TransformError Bytes, o = .ofExcept x ∧ x.isOk = succeeds d.name := by
    intro o ho
    obtain ⟨e, he, rfl, k, m, path, hk, hm, hp, rfl⟩ := h.exists_of_called hw ho
    exact ⟨_, rfl, hs e he k m path hk hm hp⟩
  rcases hf : succeeds d.name with _ | _
  · refine .inr fun o ho => ?_
    obtain ⟨x | out, rfl, hx⟩ := hall o ho
    · exact ⟨x, rfl⟩
    · rw [hf] at hx
      cases hx
  · refine .inl fun o ho => ?_
    obtain ⟨x | out, rfl, hx⟩ := hall o ho
    · rw [hf] at hx
      cases hx
    · exact ⟨out, rfl⟩

/-- On machines that are the same, the same loads fail. -/
lemma verdicts_loadAll (hp : ∀ e ∈ c.backends, e.options = none) {ds : List (Descriptor τ)}
    (hd : ∀ d ∈ ds, d ∈ c.descriptors τ) {u : World τ} (hm : u.machine = v.machine) :
    verdicts ((c.loader τ).loadAll ds u).1 = verdicts ((c.loader τ).loadAll ds v).1 := by
  induction ds generalizing u v with
  | nil => rfl
  | cons d ds ih =>
    obtain ⟨hd, hds⟩ := List.forall_mem_cons.1 hd
    obtain ⟨e, he, rfl⟩ := List.mem_map.1 hd
    obtain ⟨hmu, hau⟩ := load_program (τ := τ) c (hp e he) u
    obtain ⟨hmv, hav⟩ := load_program (τ := τ) c (hp e he) v
    have hn : ((c.loader τ).load (e.descriptor τ) u).2.machine =
        ((c.loader τ).load (e.descriptor τ) v).2.machine := by rw [hmu, hmv, hm]
    rw [Loader.loadAll, Loader.loadAll, verdicts_cons, verdicts_cons, hau, hav, hm, ih hds hn]

/-- Programs that leave the machine as it is disturb nothing. -/
lemma Confined.undisturbed {m : Machine} (h : c.Confined (· = m)) (hw : w.machine = m)
    (selects : String → Bool) (pace : BackendName → World τ → ℕ) :
    Sweep.Undisturbed (Timer.paced τ selects pace) (c.loader τ) (Sink.lines τ) (c.descriptors τ)
      (Timer.begun c.suite) w := by
  intro before d after t v b v' scope u he hr hl hd
  have hmem : ∀ x ∈ before ++ d :: after, x ∈ c.descriptors τ := fun x hx => he ▸ hx
  have hv : (c.loader τ).Comes (c.descriptors τ) w v [] :=
    Sweep.comes_of_run (fun x hx => hmem x (by simp [hx])) .start hr
  have hv' := hv.loaded (hmem d (by simp)) hl
  have hu := (Timer.comes_of_declare hv' hd).1
  refine verdicts_loadAll h.plain (fun x hx => hmem x (by simp [hx])) ?_
  rw [(h.comes hw hu).1, (h.comes hw hv').1]

end Confined

end Config

/-! ## Timing and recording a configured suite -/

/-- Registers a configured suite with a timer that keeps a pace. -/
def timeAtPace (c : Config) (selects : String → Bool) (pace : BackendName → World τ → ℕ)
    (w : World τ) : Except Rejection
      (Except Payload (Registration (List TimedSuite) (List String)) × World τ) :=
  (c.suiteOf τ).map fun s =>
    s.register (Timer.paced τ selects pace) (c.loader τ) (Sink.lines τ) [] [] w

/-- The timer of a configuration calls a backend once more than its sample size says. -/
lemma timeConfigured_eq_timeAtPace (c : Config) (selects : String → Bool) (w : World τ) :
    timeConfigured c selects w = timeAtPace c selects (fun _ _ => c.timing.sampleSize) w := rfl

/-- Registers a configured suite with a recorder that is empty. -/
def recordConfigured (c : Config) (w : World τ) :
    Except Rejection (Except Payload (Registration (Recorder τ) (List String)) × World τ) :=
  (c.suiteOf τ).map fun s =>
    s.register (Recorder.registrar τ) (c.loader τ) (Sink.lines τ) {} [] w

namespace Suite

variable {s : Suite τ} {selects : String → Bool} {pace : BackendName → World τ → ℕ} {l : Loader τ}
  {w u : World τ}

/-- A registration with a timer is its sweep, with the suite that has been timed. -/
lemma register_paced (s : Suite τ) (selects : String → Bool) (pace : BackendName → World τ → ℕ)
    (l : Loader τ) (w : World τ) :
    s.register (Timer.paced τ selects pace) l (Sink.lines τ) [] [] w =
      match Sweep.run (Timer.paced τ selects pace) l (Sink.lines τ) s.roster.descriptors
        (Timer.begun s.name) w with
      | (.ok t, u) => (.ok ⟨⟨s.name, t.registered, t.skipped⟩, [t.scope], t.sink⟩, u)
      | (.error p, u) => (.error p, u) := by
  have hb : (⟨(Timer.paced τ selects pace).openSuite s.name [], [], [], []⟩ :
      Sweep TimedSuite (List String)) = Timer.begun s.name := rfl
  rw [register, hb]
  rcases Sweep.run (Timer.paced τ selects pace) l (Sink.lines τ) s.roster.descriptors
    (Timer.begun s.name) w with ⟨p | t, u⟩
  · rfl
  · rfl

/-- A load is fatal if a recorder registers its descriptor, and this is selected and fails. -/
lemma fatal_iff {ds : List (Descriptor τ)} {a : Load τ} (ha : a ∈ s.loads l w) :
    Sweep.Fatal selects s.name l ds w a ↔
      a.descriptor.name ∈ (loaded (s.loads l w)).map (·.name) ∧
        selects (Timer.identifier s.name a.descriptor.name) = true ∧
        l.Fallible ds w a.descriptor := by
  have hn : ((s.loads l w).map (·.descriptor.name)).Nodup := by
    rw [s.map_descriptor_name_loads l w]
    exact s.roster.distinct
  rw [Sweep.Fatal, mem_map_name_loaded_iff (s.attributed_loads l w) hn ha]

/-- Every descriptor of the roster has its load. -/
lemma exists_load_of_mem {d : Descriptor τ} (hd : d ∈ s.roster.descriptors) :
    ∃ a ∈ s.loads l w, a.descriptor = d := by
  rw [← l.map_descriptor_loadAll s.roster.descriptors w] at hd
  exact List.mem_map.1 hd

/-- Where the loads are split, so are the descriptors. -/
lemma descriptors_of_split {as₁ as₂ : List (Load τ)} {a : Load τ}
    (h : s.loads l w = as₁ ++ a :: as₂) :
    s.roster.descriptors = as₁.map (·.descriptor) ++ a.descriptor :: as₂.map (·.descriptor) := by
  rw [← l.map_descriptor_loadAll s.roster.descriptors w]
  have hm := congrArg (List.map Load.descriptor) h
  rwa [List.map_append, List.map_cons] at hm

/-- What is said of a sweep with a timer is said of the registration.  Either no registered backend
that is selected fails, and then the summary is that of the recorder; or the first of them is behind
the panic. -/
lemma register_timing (hu : l.Uniform s.roster.descriptors w)
    (hd : Sweep.Undisturbed (Timer.paced τ selects pace) l (Sink.lines τ) s.roster.descriptors
      (Timer.begun s.name) w) :
    ((∀ a ∈ s.loads l w, ¬Sweep.Fatal selects s.name l s.roster.descriptors w a) ∧
      ∃ kept ls u, s.register (Timer.paced τ selects pace) l (Sink.lines τ) [] [] w =
        (.ok ⟨⟨s.name, (loaded (s.loads l w)).map (·.name), failures (s.loads l w)⟩, kept, ls⟩,
          u)) ∨
    ∃ as₁ a as₂ e u, s.loads l w = as₁ ++ a :: as₂ ∧
      (∀ b ∈ as₁, ¬Sweep.Fatal selects s.name l s.roster.descriptors w b) ∧
      Sweep.Fatal selects s.name l s.roster.descriptors w a ∧
      l.Called s.roster.descriptors w a.descriptor (.failed e) ∧
      ∀ (l' : Loader τ) (s' : Suite τ) (others : List (Descriptor τ)), s'.name = s.name →
        s'.roster.descriptors = as₁.map (·.descriptor) ++ a.descriptor :: others →
        (∀ d ∈ as₁.map (·.descriptor) ++ [a.descriptor], ∀ v, l'.load d v = l.load d v) →
        s'.register (Timer.paced τ selects pace) l' (Sink.lines τ) [] [] w =
          (.error (.formatted (Timer.failureText a.descriptor.name e)), u) := by
  have h := Sweep.alongside hu (fun _ hm => hm) .start hd rfl
  cases h with
  | ends t u spared run_eq registered skipped =>
    refine .inl ⟨spared, [t.scope], t.sink, u, ?_⟩
    rw [register_paced, run_eq]
    dsimp only
    rw [registered, skipped]
    rfl
  | panics as₁ as₂ a e u split spared fatal called run_eq =>
    refine .inr ⟨as₁, a, as₂, e, u, split, spared, fatal, called, ?_⟩
    intro l' s' others hn hs hl
    have hr := Sweep.run_append_of_panic hl run_eq others
    rw [List.append_assoc, List.singleton_append, ← hs, ← hn] at hr
    rw [register_paced, hr]

end Suite

namespace Config

/-- **Timing agrees with recording.**  Let a configuration be well formed, let every backend succeed
on all calls or fail on all, and let nothing that the timer runs disturb the loads after it.  Then a
timer that calls a selected backend at least once panics exactly if some backend that a recorder
registers is selected and fails.  The panic names the first such backend with the text of its error;
what the panic leaves is the same whatever comes after that backend, and however it would be loaded.
Without a panic the summary is that of the recorder.  In any case the identifiers of the backends
that are declared differ. -/
theorem timing_agrees {c : Config} (hc : c.WellFormed) (w : World τ) (selects : String → Bool)
    (pace : BackendName → World τ → ℕ) (hu : (c.loader τ).Uniform (c.descriptors τ) w)
    (hd : Sweep.Undisturbed (Timer.paced τ selects pace) (c.loader τ) (Sink.lines τ)
      (c.descriptors τ) (Timer.begun c.suite) w) :
    timeConfigured c selects w = timeAtPace c selects (fun _ _ => c.timing.sampleSize) w ∧
    ∃ y x r v, timeAtPace c selects pace w = .ok (y, x) ∧ recordConfigured c w = .ok (.ok r, v) ∧
      ((∃ p, y = .error p) ↔ ∃ d ∈ c.descriptors τ, d.name ∈ r.summary.registered ∧
        selects (Timer.identifier c.suite d.name) = true ∧
        (c.loader τ).Fallible (c.descriptors τ) w d) ∧
      (∀ p, y = .error p → ∃ before d after e, c.descriptors τ = before ++ d :: after ∧
        d.name ∈ r.summary.registered ∧
        selects (Timer.identifier c.suite d.name) = true ∧
        (c.loader τ).Called (c.descriptors τ) w d (.failed e) ∧
        p = .formatted (Timer.failureText d.name e) ∧
        (∀ b ∈ before, b.name ∈ r.summary.registered →
          selects (Timer.identifier c.suite b.name) = true →
          ¬(c.loader τ).Fallible (c.descriptors τ) w b) ∧
        ∀ (l : Loader τ) (s : Suite τ) (others : List (Descriptor τ)), s.name = c.suite →
          s.roster.descriptors = before ++ d :: others →
          (∀ b ∈ before ++ [d], ∀ u, l.load b u = (c.loader τ).load b u) →
          s.register (Timer.paced τ selects pace) l (Sink.lines τ) [] [] w = (y, x)) ∧
      (∀ g, y = .ok g → g.summary = r.summary) ∧
      ((Sweep.declared (Timer.paced τ selects pace) (c.loader τ) (Sink.lines τ) (c.descriptors τ)
        (Timer.begun c.suite) w).map (Timer.identifier c.suite)).Nodup := by
  refine ⟨timeConfigured_eq_timeAtPace c selects w, ?_⟩
  obtain ⟨s, hs, hsn, hsd, -⟩ := hc.suiteOf_eq_ok τ
  have ht : timeAtPace c selects pace w =
      .ok (s.register (Timer.paced τ selects pace) (c.loader τ) (Sink.lines τ) [] [] w) := by
    rw [timeAtPace, hs, Except.map]
  have hr : recordConfigured c w =
      .ok (s.register (Recorder.registrar τ) (c.loader τ) (Sink.lines τ) {} [] w) := by
    rw [recordConfigured, hs, Except.map]
  rw [s.register_recording (c.loader τ) {} [] w] at hr
  rw [← hsd] at hu hd ⊢
  rw [← hsn] at hd ⊢
  have hids : ((Sweep.declared (Timer.paced τ selects pace) (c.loader τ) (Sink.lines τ)
      s.roster.descriptors (Timer.begun s.name) w).map (Timer.identifier s.name)).Nodup :=
    (s.roster.distinct.sublist (Sweep.declared_sublist ..)).map (Timer.identifier_injective s.name)
  rcases s.register_timing hu hd with ⟨hspared, kept, ls, u, hok⟩ |
    ⟨as₁, a, as₂, e, u, hsplit, hspared, hfatal, hcalled, hany⟩
  · rw [hok] at ht
    refine ⟨_, _, _, _, ht, hr, ?_, ?_, ?_, hids⟩
    · refine iff_of_false (fun ⟨p, hp⟩ => by cases hp) ?_
      rintro ⟨d, hm, hd⟩
      obtain ⟨a, ha, rfl⟩ := s.exists_load_of_mem hm
      exact hspared a ha ((s.fatal_iff ha).2 hd)
    · intro p hp
      cases hp
    · intro g hg
      cases hg
      rfl
  · have hds := s.descriptors_of_split hsplit
    have hpanic := hany (c.loader τ) s _ rfl hds fun _ _ _ => rfl
    have ha : a ∈ s.loads (c.loader τ) w := by simp [hsplit]
    obtain ⟨hreg, hsel, hfal⟩ := (s.fatal_iff ha).1 hfatal
    rw [hpanic] at ht
    refine ⟨_, _, _, _, ht, hr, ?_, ?_, ?_, hids⟩
    · exact iff_of_true ⟨_, rfl⟩ ⟨a.descriptor, by simp [hds], hreg, hsel, hfal⟩
    · intro p hp
      cases hp
      refine ⟨_, _, _, e, hds, hreg, hsel, hcalled, rfl, ?_, hany⟩
      intro b hb hbreg hbsel hbfal
      obtain ⟨x, hx, rfl⟩ := List.mem_map.1 hb
      have hxm : x ∈ s.loads (c.loader τ) w := by simp [hsplit, hx]
      exact hspared x hx ((s.fatal_iff hxm).2 ⟨hbreg, hbsel, hbfal⟩)
    · intro g hg
      cases hg

/-! ### A suite on which they agree -/

/-- A suite with a quick timing and no directories to search. -/
def quick (suite : SuiteName) (backends : List BackendEntry) : Config :=
  { suite, timing := .quick, searchPaths := [], backends }

lemma wellFormed_quick {suite : SuiteName} {backends : List BackendEntry}
    (hp : ∀ e ∈ backends, e.options = none) (hn : (backends.map (·.name)).Nodup) :
    (quick suite backends).WellFormed where
  suite := isName_of_valid suite.valid
  backends e he := BackendEntry.wellFormed_of_flag fun ho => by
    rw [hp e he] at ho
    cases ho
  distinct := hn
  sampleSize := by simp [quick, Timing.quick]
  measurementTime := by simp [quick, Timing.quick]
  warmUpTime := by simp [quick, Timing.quick]
  searchPaths := by simp [quick]

/-- A backend that succeeds, one that is not there, and one that fails. -/
def mixed : Config :=
  quick ⟨"mixed", by decide⟩
    [⟨⟨"fine", by decide⟩, ⟨"/bin/true", by decide⟩, [], none, defaultFlag⟩,
     ⟨⟨"absent", by decide⟩, ⟨"./absent", by decide⟩, [], none, defaultFlag⟩,
     ⟨⟨"failing", by decide⟩, ⟨"/bin/false", by decide⟩, [], none, defaultFlag⟩]

/-- A world with a fresh machine. -/
def quietWorld : World Unit := { machine := Machine.fresh, ambient := () }

/-- Whether the backends succeed. -/
def mixedFate (n : BackendName) : Bool := n.text != "failing"

/-- Where the programs of the mixed suite are, and what comes of those that are found. -/
lemma mixed_runs :
    (Lookup.program Machine.fresh mixed.searchPaths ⟨"/bin/true", by decide⟩ = .ok "/bin/true" ∧
      Lookup.program Machine.fresh mixed.searchPaths ⟨"./absent", by decide⟩ =
        .error (.notFound ⟨"./absent", by decide⟩) ∧
      Lookup.program Machine.fresh mixed.searchPaths ⟨"/bin/false", by decide⟩ =
        .ok "/bin/false") ∧
    ∀ path ∈ ["/bin/true", "/bin/false"],
      (Machine.fresh.transform path [] Workload.fixed.source).2.files.entries =
          Machine.fresh.files.entries ∧
        (Machine.fresh.transform path [] Workload.fixed.source).1.isOk =
          (path == "/bin/true") := by
  decide +kernel

/-- The programs that are found for the mixed suite leave the machine as it is, and have their
fates. -/
lemma mixed_program : ∀ e ∈ mixed.backends, ∀ path,
    Lookup.program Machine.fresh mixed.searchPaths e.locator = .ok path →
      (Machine.fresh.transform path e.args Workload.fixed.source).2 = Machine.fresh ∧
        (Machine.fresh.transform path e.args Workload.fixed.source).1.isOk = mixedFate e.name := by
  intro e he path hp
  obtain ⟨⟨htrue, habsent, hfalse⟩, hruns⟩ := mixed_runs
  simp only [mixed, quick, List.mem_cons, List.not_mem_nil, or_false] at he
  rcases he with rfl | rfl | rfl
  · rw [htrue] at hp
    cases hp
    obtain ⟨hf, hok⟩ := hruns "/bin/true" (by decide)
    exact ⟨Machine.transform_snd_of_entries hf, hok⟩
  · rw [habsent] at hp
    cases hp
  · rw [hfalse] at hp
    cases hp
    obtain ⟨hf, hok⟩ := hruns "/bin/false" (by decide)
    exact ⟨Machine.transform_snd_of_entries hf, hok⟩

lemma confined_mixed : mixed.Confined (· = Machine.fresh) where
  plain := by decide
  closed := by
    rintro e he _ _ path rfl rfl hp
    exact (mixed_program e he path hp).1

lemma uniform_mixed : (mixed.loader Unit).Uniform (mixed.descriptors Unit) quietWorld := by
  refine confined_mixed.uniform rfl mixedFate ?_
  rintro e he _ _ path rfl rfl hp
  exact (mixed_program e he path hp).2

/-- Only the calls of one backend fail. -/
lemma name_of_fallible {d : Descriptor Unit}
    (h : (mixed.loader Unit).Fallible (mixed.descriptors Unit) quietWorld d) :
    d.name = ⟨"failing", by decide⟩ := by
  obtain ⟨x, hx⟩ := h
  obtain ⟨e, he, rfl, _, _, path, rfl, rfl, hp, hr⟩ := confined_mixed.exists_of_called rfl hx
  have hf := (mixed_program e he path hp).2
  rcases hc : (Machine.fresh.transform path e.args Workload.fixed.source).1 with y | out
  · have hm : mixedFate e.name = false := by rw [← hf, hc]; rfl
    exact (BackendName.mk.injEq ..).mpr (by simpa [mixedFate] using hm)
  · rw [hc] at hr
    cases hr

/-- And they do fail. -/
lemma fallible_failing : ∃ d ∈ mixed.descriptors Unit, d.name = ⟨"failing", by decide⟩ ∧
    (mixed.loader Unit).Fallible (mixed.descriptors Unit) quietWorld d := by
  let e : BackendEntry := ⟨⟨"failing", by decide⟩, ⟨"/bin/false", by decide⟩, [], none, defaultFlag⟩
  have he : e ∈ mixed.backends := by decide
  have hp : Lookup.program Machine.fresh mixed.searchPaths e.locator = .ok "/bin/false" :=
    mixed_runs.1.2.2
  have hf := (mixed_program e he _ hp).2
  have hc := called_program (w := quietWorld) he rfl hp
  refine ⟨e.descriptor Unit, List.mem_map_of_mem he, rfl, ?_⟩
  rcases hr : (Machine.fresh.transform "/bin/false" e.args Workload.fixed.source).1 with y | out
  · exact ⟨y, by rw [← Outcome.ofExcept, ← hr]; exact hc⟩
  · rw [hr] at hf
    cases hf

/-- The summary of a registration that was accepted and has ended. -/
def summary? {ρ δ : Type} :
    Except Rejection (Except Payload (Registration ρ δ) × World τ) → Option Summary
  | .ok (.ok g, _) => some g.summary
  | _ => none

lemma exists_of_summary? {ρ δ α : Type} {f : Summary → α} {a : α}
    {z : Except Rejection (Except Payload (Registration ρ δ) × World τ)}
    (h : (summary? z).map f = some a) : ∃ g w, z = .ok (.ok g, w) ∧ f g.summary = a := by
  rcases z with r | ⟨p | g, w⟩
  · cases h
  · cases h
  · exact ⟨g, w, rfl, Option.some.inj h⟩

/-- With the failing backend selected the mixed suite panics; without it the summaries agree. -/
theorem timing_agrees_mixed :
    mixed.WellFormed ∧ (mixed.loader Unit).Uniform (mixed.descriptors Unit) quietWorld ∧
      (∀ selects pace, Sweep.Undisturbed (Timer.paced Unit selects pace) (mixed.loader Unit)
        (Sink.lines Unit) (mixed.descriptors Unit) (Timer.begun mixed.suite) quietWorld) ∧
      (∃ e x, timeAtPace mixed (fun _ => true) (fun _ _ => 9) quietWorld =
        .ok (.error (.formatted (Timer.failureText ⟨"failing", by decide⟩ e)), x)) ∧
      ∃ g x r v, timeAtPace mixed (· != "mixed/failing") (fun _ _ => 9) quietWorld =
          .ok (.ok g, x) ∧
        recordConfigured mixed quietWorld = .ok (.ok r, v) ∧ g.summary = r.summary ∧
        g.summary.registered = [⟨"fine", by decide⟩, ⟨"failing", by decide⟩] := by
  have hw : mixed.WellFormed := wellFormed_quick (by decide) (by decide)
  have hd := fun selects pace => confined_mixed.undisturbed (w := quietWorld) rfl selects pace
  have hn : (summary? (recordConfigured mixed quietWorld)).map (·.registered) =
      some [⟨"fine", by decide⟩, ⟨"failing", by decide⟩] := by decide +kernel
  refine ⟨hw, uniform_mixed, hd, ?_, ?_⟩
  · obtain ⟨y, x, r, v, ht, hr, hpanic, hfirst, -⟩ := timing_agrees hw quietWorld (fun _ => true)
      (fun _ _ => 9) uniform_mixed (hd _ _) |>.2
    rw [hr] at hn
    obtain ⟨d, hdm, hdn, hdf⟩ := fallible_failing
    have hreg : d.name ∈ r.summary.registered := by
      have hr : r.summary.registered = _ := Option.some.inj hn
      rw [hr, hdn]
      decide
    obtain ⟨p, rfl⟩ := hpanic.2 ⟨d, hdm, hreg, rfl, hdf⟩
    obtain ⟨_, b, _, e, -, -, -, hcalled, rfl, -⟩ := hfirst p rfl
    exact ⟨e, x, name_of_fallible ⟨e, hcalled⟩ ▸ ht⟩
  · obtain ⟨y, x, r, v, ht, hr, hpanic, -, hagree, -⟩ := timing_agrees hw quietWorld
      (· != "mixed/failing") (fun _ _ => 9) uniform_mixed (hd _ _) |>.2
    rw [hr] at hn
    rcases y with p | g
    · obtain ⟨d, -, -, hds, hdf⟩ := hpanic.1 ⟨p, rfl⟩
      rw [name_of_fallible hdf] at hds
      exact absurd hds (by decide)
    · have hg := hagree g rfl
      exact ⟨g, x, r, v, ht, hr, hg, by rw [hg]; exact Option.some.inj hn⟩

/-! ### A suite on which they differ -/

/-- A backend whose program makes a file, and one whose program would be that file. -/
def growing : Config :=
  quick ⟨"growing", by decide⟩
    [⟨⟨"maker", by decide⟩, ⟨"/bin/sh", by decide⟩, ["-c", ": > plugin"], none, defaultFlag⟩,
     ⟨⟨"plugin", by decide⟩, ⟨"./plugin", by decide⟩, [], none, defaultFlag⟩]

/-- A fresh machine on which the file has been made. -/
def grownMachine : Machine :=
  { Machine.fresh with
    files := Machine.fresh.files.put ["tmp", "work", "plugin"] (.file 0o644 []) }

/-- The programs that are found on either machine make the file, and succeed. -/
lemma growing_program : ∀ e ∈ growing.backends, ∀ k m path,
    k = Machine.fresh ∨ k = grownMachine → m = Machine.fresh ∨ m = grownMachine →
    Lookup.program k growing.searchPaths e.locator = .ok path →
      (m.transform path e.args Workload.fixed.source).2 = grownMachine ∧
        (m.transform path e.args Workload.fixed.source).1.isOk = true := by
  intro e he k m path hk hm hp
  simp only [growing, quick, List.mem_cons, List.not_mem_nil, or_false] at he
  rcases he with rfl | rfl
  · have hl : Lookup.program k growing.searchPaths ⟨"/bin/sh", by decide⟩ = .ok "/bin/sh" := by
      rcases hk with rfl | rfl <;> decide +kernel
    rw [hl] at hp
    cases hp
    rcases hm with rfl | rfl
    · exact ⟨Machine.transform_snd_of_entries (by decide +kernel), by decide +kernel⟩
    · exact ⟨Machine.transform_snd_of_entries (by decide +kernel), by decide +kernel⟩
  · have hl : (Lookup.program k growing.searchPaths ⟨"./plugin", by decide⟩).isOk = false := by
      rcases hk with rfl | rfl <;> decide +kernel
    rw [hp] at hl
    cases hl

lemma confined_growing : growing.Confined fun m => m = Machine.fresh ∨ m = grownMachine where
  plain := by decide
  closed e he k m path hk hm hp := .inr (growing_program e he k m path hk hm hp).1

lemma uniform_growing :
    (growing.loader Unit).Uniform (growing.descriptors Unit) quietWorld :=
  confined_growing.uniform (.inl rfl) (fun _ => true) fun e he k m path hk hm hp =>
    (growing_program e he k m path hk hm hp).2

/-- So timing need not agree with recording where a program disturbs the loads after it, even
though every call succeeds: the file that the first backend makes is found, but may not be
executed. -/
theorem not_timing_agrees :
    ¬∀ (c : Config) (w : World Unit) (selects : String → Bool), c.WellFormed →
      (c.loader Unit).Uniform (c.descriptors Unit) w →
      ∀ g x r v, timeConfigured c selects w = .ok (.ok g, x) →
        recordConfigured c w = .ok (.ok r, v) → g.summary.skipped = r.summary.skipped := by
  intro h
  have hw : growing.WellFormed := wellFormed_quick (by decide) (by decide)
  have hu := uniform_growing
  have ht : (summary? (timeConfigured growing (fun _ => true) quietWorld)).map (·.skipped) =
      some [⟨⟨"plugin", by decide⟩, ⟨"./plugin", by decide⟩,
        .resolve (.notExecutable "./plugin")⟩] := by decide +kernel
  have hr : (summary? (recordConfigured growing quietWorld)).map (·.skipped) =
      some [⟨⟨"plugin", by decide⟩, ⟨"./plugin", by decide⟩,
        .resolve (.notFound ⟨"./plugin", by decide⟩)⟩] := by decide +kernel
  obtain ⟨g, x, hg, hgs⟩ := exists_of_summary? ht
  obtain ⟨r, v, hr, hrs⟩ := exists_of_summary? hr
  have hs := h growing quietWorld _ hw hu g x r v hg hr
  rw [hgs, hrs] at hs
  exact absurd hs (by decide)

end Config

end BenchRoster
