/-
# Timing agrees with recording

A recorder keeps the backends that are declared to it; a timer calls each one at once if it is
selected, and panics when a call fails.  So a sweep with a timer goes through what a sweep with a
recorder goes through, up to the first selected backend that fails, as long as running a benchmark
does not change how the backends after it load.

* `Loader.Comes` are the worlds that a program comes to, with the backends that it holds there, and
  `Loader.Called` the outcomes of their calls;
* `Timer.paced` is a timer that may call every backend another number of times, and
  `Sweep.Undisturbed` says that what it runs has no part in what it loads;
* `Sweep.run_append_of_panic` says that nothing behind a panic is looked at, and
  `Sweep.declared_sublist` that each backend is declared once at most;
* `Sweep.alongside` compares the two sweeps.
-/
import BenchRoster.Proofs.Forwarding
import BenchRoster.Timer

namespace BenchRoster

variable {τ : Type}

/-! ## Programs that use a loader -/

namespace Loader

/-- The worlds that a program comes to, with the backends that it holds there: it may load any of
the descriptors, call what it holds, and release it. -/
inductive Comes (l : Loader τ) (ds : List (Descriptor τ)) (w : World τ) :
    World τ → List (Descriptor τ × LoadedBackend τ) → Prop
  | start : Comes l ds w w []
  | loaded {d : Descriptor τ} {b : LoadedBackend τ} {v u : World τ}
      {held : List (Descriptor τ × LoadedBackend τ)} (h : Comes l ds w v held) (hd : d ∈ ds)
      (hl : l.load d v = (.ok b, u)) : Comes l ds w u ((d, b) :: held)
  | failed {d : Descriptor τ} {f : LoadFailure} {v u : World τ}
      {held : List (Descriptor τ × LoadedBackend τ)} (h : Comes l ds w v held) (hd : d ∈ ds)
      (hl : l.load d v = (.error f, u)) : Comes l ds w u held
  | called {x : Descriptor τ × LoadedBackend τ} {v : World τ}
      {held : List (Descriptor τ × LoadedBackend τ)} (h : Comes l ds w v held) (hx : x ∈ held) :
      Comes l ds w (x.2.call v).2 held
  | released (before after : List (Descriptor τ × LoadedBackend τ))
      {x : Descriptor τ × LoadedBackend τ} {v : World τ}
      (h : Comes l ds w v (before ++ x :: after)) : Comes l ds w (x.2.release v) (before ++ after)

/-- Somewhere on the way of a program a backend of the descriptor is called, with this outcome. -/
def Called (l : Loader τ) (ds : List (Descriptor τ)) (w : World τ) (d : Descriptor τ)
    (o : Outcome TransformError Bytes) : Prop :=
  ∃ b v held, l.Comes ds w v held ∧ (d, b) ∈ held ∧ (b.call v).1 = o

/-- Each descriptor has its fate: all calls succeed, or all calls fail. -/
def Uniform (l : Loader τ) (ds : List (Descriptor τ)) (w : World τ) : Prop :=
  ∀ d ∈ ds, (∀ o, l.Called ds w d o → ∃ out, o = .done out) ∨
    ∀ o, l.Called ds w d o → ∃ e, o = .failed e

/-- Some call of the descriptor fails. -/
def Fallible (l : Loader τ) (ds : List (Descriptor τ)) (w : World τ) (d : Descriptor τ) : Prop :=
  ∃ e, l.Called ds w d (.failed e)

variable {l : Loader τ} {ds : List (Descriptor τ)} {w : World τ} {d : Descriptor τ}

/-- Under a fate, one failing call is as good as all. -/
lemma Uniform.failed_of_fallible (h : l.Uniform ds w) (hd : d ∈ ds) (hf : l.Fallible ds w d)
    {o : Outcome TransformError Bytes} (ho : l.Called ds w d o) : ∃ e, o = .failed e := by
  rcases h d hd with hs | hs
  · obtain ⟨e, he⟩ := hf
    obtain ⟨out, hout⟩ := hs _ he
    cases hout
  · exact hs o ho

/-- Under a fate, without a failing call all calls succeed. -/
lemma Uniform.done_of_not_fallible (h : l.Uniform ds w) (hd : d ∈ ds) (hf : ¬l.Fallible ds w d)
    {o : Outcome TransformError Bytes} (ho : l.Called ds w d o) : ∃ out, o = .done out := by
  rcases h d hd with hs | hs
  · exact hs o ho
  · obtain ⟨e, rfl⟩ := hs o ho
    exact absurd ⟨e, ho⟩ hf

end Loader

/-! ## Timers with a pace -/

namespace Timer

/-- A timer that calls a selected backend at least once, and then as often as a pace says that may
depend on the backend and on the world in which it is declared. -/
def paced (τ : Type) (selects : String → Bool) (pace : BackendName → World τ → ℕ) :
    Registrar τ (List TimedSuite) TimedSuite :=
  { registrar τ {} with declare := fun b s w => declare ⟨selects, pace b.name w⟩ b s w }

/-- A sweep with a timer that begins. -/
def begun (suite : SuiteName) : Sweep TimedSuite (List String) :=
  { scope := ⟨suite, []⟩, sink := [] }

/-- No two backends have one identifier in a suite. -/
lemma identifier_injective (suite : SuiteName) :
    Function.Injective (identifier suite) := by
  intro m n h
  have ht := congrArg String.toList h
  simp only [identifier, String.toList_append, List.append_cancel_left_eq] at ht
  cases m
  cases n
  cases String.toList_injective ht
  rfl

variable {l : Loader τ} {ds : List (Descriptor τ)} {w : World τ} {b : LoadedBackend τ}

/-- Calls that all succeed lead on. -/
lemma comes_of_calls {n : ℕ} {v u : World τ} {x : Descriptor τ × LoadedBackend τ}
    {held : List (Descriptor τ × LoadedBackend τ)} (h : l.Comes ds w v held) (hx : x ∈ held)
    (hc : calls x.2 n v = (.ok (), u)) : l.Comes ds w u held := by
  induction n generalizing v with
  | zero =>
    cases hc
    exact h
  | succ n ih =>
    have hn := h.called hx
    rw [calls] at hc
    split at hc
    · rename_i out v' ho
      rw [ho] at hn
      exact ih hn hc
    · cases hc
    · cases hc

/-- A backend whose calls succeed wherever the program comes is called as often as one likes. -/
lemma exists_calls_ok {x : Descriptor τ × LoadedBackend τ}
    {held : List (Descriptor τ × LoadedBackend τ)} (hx : x ∈ held)
    (hs : ∀ v, l.Comes ds w v held → ∃ out, (x.2.call v).1 = .done out) (n : ℕ) {v : World τ}
    (h : l.Comes ds w v held) : ∃ u, calls x.2 n v = (.ok (), u) := by
  induction n generalizing v with
  | zero => exact ⟨v, rfl⟩
  | succ n ih =>
    obtain ⟨out, ho⟩ := hs v h
    rcases hc : x.2.call v with ⟨o, v'⟩
    have hn := h.called hx
    rw [hc] at ho hn
    cases ho
    obtain ⟨u, hu⟩ := ih hn
    exact ⟨u, by rw [calls, hc]; exact hu⟩

/-- The first call that fails is the panic. -/
lemma exists_calls_error {v : World τ} {e : TransformError} (he : (b.call v).1 = .failed e)
    (n : ℕ) : ∃ u, calls b (n + 1) v = (.error (.formatted (failureText b.name e)), u) := by
  rcases hc : b.call v with ⟨o, u⟩
  rw [hc] at he
  cases he
  exact ⟨_, by rw [calls, hc]⟩

variable {selects : String → Bool} {pace : BackendName → World τ → ℕ} {d : Descriptor τ}
  {s : TimedSuite} {v : World τ}

lemma declare_unselected (hs : selects (identifier s.name b.name) = false) :
    (paced τ selects pace).declare b s v = (.ok s, b.release v) := by
  simp [paced, declare, hs]

lemma declare_ok {u : World τ} (hs : selects (identifier s.name b.name) = true)
    (hc : calls b (pace b.name v + 1) v = (.ok (), u)) :
    (paced τ selects pace).declare b s v =
      (.ok { s with timed := s.timed ++ [b.name] }, b.release u) := by
  simp [paced, declare, hs, hc]

lemma declare_error {u : World τ} {p : Payload} (hs : selects (identifier s.name b.name) = true)
    (hc : calls b (pace b.name v + 1) v = (.error p, u)) :
    (paced τ selects pace).declare b s v = (.error p, b.release u) := by
  simp [paced, declare, hs, hc]

/-- Declaring a backend, which is released in the end, leads back to holding nothing. -/
lemma comes_of_declare {t : TimedSuite} {u : World τ} (h : l.Comes ds w v [(d, b)])
    (hd : (paced τ selects pace).declare b s v = (.ok t, u)) :
    l.Comes ds w u [] ∧ t.name = s.name := by
  have hr : ∀ {v}, l.Comes ds w v [(d, b)] → l.Comes ds w (b.release v) [] := fun h =>
    .released [] [] (x := (d, b)) h
  rcases hs : selects (identifier s.name b.name) with _ | _
  · rw [declare_unselected hs] at hd
    cases hd
    exact ⟨hr h, rfl⟩
  · rcases hc : calls b (pace b.name v + 1) v with ⟨p | ⟨⟩, v'⟩
    · rw [declare_error hs hc] at hd
      cases hd
    · rw [declare_ok hs hc] at hd
      cases hd
      exact ⟨hr (comes_of_calls (x := (d, b)) h List.mem_cons_self hc), rfl⟩

/-- A backend is declared without a panic if it is not selected, or if no call of it fails. -/
lemma exists_declare_ok (hu : l.Uniform ds w) (hd : d ∈ ds) (h : l.Comes ds w v [(d, b)])
    (hs : selects (identifier s.name b.name) = true → ¬l.Fallible ds w d) :
    ∃ t u, (paced τ selects pace).declare b s v = (.ok t, u) := by
  rcases hc : selects (identifier s.name b.name) with _ | _
  · exact ⟨_, _, declare_unselected hc⟩
  · have hdone : ∀ v, l.Comes ds w v [(d, b)] → ∃ out, (b.call v).1 = .done out := fun v hv =>
      hu.done_of_not_fallible hd (hs hc) ⟨b, v, _, hv, List.mem_cons_self, rfl⟩
    obtain ⟨u, hu⟩ :=
      exists_calls_ok (x := (d, b)) List.mem_cons_self hdone (pace b.name v + 1) h
    exact ⟨_, _, declare_ok hc hu⟩

/-- A selected backend with a failing call panics when it is declared, with the text of the error
of the call that is made. -/
lemma exists_declare_error (hu : l.Uniform ds w) (hd : d ∈ ds) (h : l.Comes ds w v [(d, b)])
    (hs : selects (identifier s.name b.name) = true) (hf : l.Fallible ds w d) :
    ∃ e u, l.Called ds w d (.failed e) ∧
      (paced τ selects pace).declare b s v = (.error (.formatted (failureText b.name e)), u) := by
  have ho : l.Called ds w d (b.call v).1 := ⟨b, v, _, h, List.mem_cons_self, rfl⟩
  obtain ⟨e, he⟩ := hu.failed_of_fallible hd hf ho
  obtain ⟨u, hc⟩ := exists_calls_error he (pace b.name v)
  exact ⟨e, _, he ▸ ho, declare_error hs hc⟩

end Timer

/-! ## Sweeps that panic -/

namespace Sweep

variable {ρ σ δ : Type}

/-- A panic ends a sweep: what stands behind it is not looked at, and so it may be anything, as may
the way in which a loader would load it. -/
lemma run_append_of_panic {rg : Registrar τ ρ σ} {l l' : Loader τ} {report : Sink τ δ}
    {before : List (Descriptor τ)} {s : Sweep σ δ} {w v : World τ} {p : Payload}
    (hl : ∀ d ∈ before, ∀ u, l'.load d u = l.load d u)
    (h : run rg l report before s w = (.error p, v)) (after : List (Descriptor τ)) :
    run rg l' report (before ++ after) s w = (.error p, v) := by
  induction before generalizing s w with
  | nil => cases h
  | cons d ds ih =>
    obtain ⟨hd, hds⟩ := List.forall_mem_cons.1 hl
    have hs : step rg l' report d s w = step rg l report d s w := by rw [step, step, hd]
    rcases hc : step rg l report d s w with ⟨q | t, u⟩
    · rw [run_cons_error hc] at h
      rw [List.cons_append, run_cons_error (hs.trans hc), h]
    · rw [run_cons_ok hc] at h
      rw [List.cons_append, run_cons_ok (hs.trans hc)]
      exact ih hds h

/-- The backends that a sweep declares, one after the other; a panic ends them. -/
def declared (rg : Registrar τ ρ σ) (l : Loader τ) (report : Sink τ δ) :
    List (Descriptor τ) → Sweep σ δ → World τ → List BackendName
  | [], _, _ => []
  | d :: ds, s, w =>
    ((l.load d w).1.toOption.map (·.name)).toList ++
      match step rg l report d s w with
      | (.ok t, v) => declared rg l report ds t v
      | (.error _, _) => []

/-- They are among the descriptors, in the same order. -/
lemma declared_sublist (rg : Registrar τ ρ σ) (l : Loader τ) (report : Sink τ δ)
    (ds : List (Descriptor τ)) (s : Sweep σ δ) (w : World τ) :
    (declared rg l report ds s w).Sublist (ds.map (·.name)) := by
  induction ds generalizing s w with
  | nil => exact .slnil
  | cons d ds ih =>
    rw [declared, List.map_cons, ← List.singleton_append]
    refine List.Sublist.append ?_ ?_
    · rcases hl : l.load d w with ⟨f | b, v⟩
      · exact List.nil_sublist _
      · have hb : b.name = d.name := Loader.load_ok hl
        simp [Except.toOption, hb]
    · split
      · exact ih _ _
      · exact List.nil_sublist _

end Sweep

/-! ## Sweeps side by side -/

lemma Loader.loadAll_cons {l : Loader τ} {d : Descriptor τ} {ds : List (Descriptor τ)}
    {w v : World τ} {x : Except LoadFailure (LoadedBackend τ)} (h : l.load d w = (x, v)) :
    (l.loadAll (d :: ds) w).1 = ⟨d, x⟩ :: (l.loadAll ds v).1 := by
  rw [loadAll, h]

/-- How loads have ended, as far as failures tell. -/
def verdicts (as : List (Load τ)) : List (Option LoadFailure) := as.map Load.failure?

@[simp] lemma verdicts_nil : verdicts ([] : List (Load τ)) = [] := rfl

lemma verdicts_cons (a : Load τ) (as : List (Load τ)) :
    verdicts (a :: as) = a.failure? :: verdicts as := rfl

namespace Sweep

section

variable {ρ σ δ : Type}

/-- Whatever a sweep runs when it declares a backend, the ones that follow load as they would if it
had not been run. -/
def Undisturbed (rg : Registrar τ ρ σ) (l : Loader τ) (report : Sink τ δ)
    (ds : List (Descriptor τ)) (s : Sweep σ δ) (w : World τ) : Prop :=
  ∀ before d after t v b v' scope u, ds = before ++ d :: after →
    run rg l report before s w = (.ok t, v) → l.load d v = (.ok b, v') →
    rg.declare b t.scope v' = (.ok scope, u) →
    verdicts (l.loadAll after u).1 = verdicts (l.loadAll after v').1

variable {rg : Registrar τ ρ σ} {l : Loader τ} {report : Sink τ δ} {d : Descriptor τ}
  {ds : List (Descriptor τ)} {s t : Sweep σ δ} {w v : World τ}

/-- The rest of a sweep is undisturbed if the whole is. -/
lemma Undisturbed.tail (h : Undisturbed rg l report (d :: ds) s w)
    (hs : step rg l report d s w = (.ok t, v)) : Undisturbed rg l report ds t v := by
  intro before e after t' v' b u scope x he hr
  exact h (d :: before) e after t' v' b u scope x (by rw [he, List.cons_append])
    ((run_cons_ok hs).trans hr)

end

variable {selects : String → Bool} {pace : BackendName → World τ → ℕ} {l : Loader τ}
  {ds : List (Descriptor τ)} {w : World τ}

/-- The sweep goes on to hold nothing. -/
lemma comes_of_step {d : Descriptor τ} (hd : d ∈ ds) {s t : Sweep TimedSuite (List String)}
    {v u : World τ} (h : l.Comes ds w v [])
    (hs : step (Timer.paced τ selects pace) l (Sink.lines τ) d s v = (.ok t, u)) :
    l.Comes ds w u [] ∧ t.scope.name = s.scope.name := by
  obtain ⟨f, v', hl, rfl, rfl⟩ | ⟨b, v', scope, hl, hc, rfl⟩ := step_cases hs
  · exact ⟨h.failed hd hl, rfl⟩
  · exact Timer.comes_of_declare (h.loaded hd hl) hc

/-- A sweep with a timer is a program that comes to its last world with nothing in its hands. -/
lemma comes_of_run {es : List (Descriptor τ)} (he : ∀ d ∈ es, d ∈ ds)
    {s t : Sweep TimedSuite (List String)} {v u : World τ} (h : l.Comes ds w v [])
    (hr : run (Timer.paced τ selects pace) l (Sink.lines τ) es s v = (.ok t, u)) :
    l.Comes ds w u [] := by
  induction es generalizing s v with
  | nil =>
    cases hr
    exact h
  | cons d es ih =>
    obtain ⟨hd, hes⟩ := List.forall_mem_cons.1 he
    obtain ⟨s', v', hs, hr⟩ := run_cons_inv hr
    exact ih hes (comes_of_step hd h hs).1 hr

/-- A load after which a sweep with a timer panics: the backend is selected, and a call fails. -/
def Fatal (selects : String → Bool) (suite : SuiteName) (l : Loader τ) (ds : List (Descriptor τ))
    (w : World τ) (a : Load τ) : Prop :=
  a.succeeded = true ∧ selects (Timer.identifier suite a.descriptor.name) = true ∧
    l.Fallible ds w a.descriptor

/-- A sweep with a timer beside some loads of a recorder: it ends with the accounts of these, if
none of them is fatal, and otherwise it panics at the first one that is. -/
inductive Alongside (selects : String → Bool) (pace : BackendName → World τ → ℕ) (l : Loader τ)
    (ds : List (Descriptor τ)) (w : World τ) (es : List (Descriptor τ)) (as : List (Load τ))
    (s : Sweep TimedSuite (List String)) (v : World τ) : Prop
  | ends (t : Sweep TimedSuite (List String)) (u : World τ)
      (spared : ∀ a ∈ as, ¬Fatal selects s.scope.name l ds w a)
      (run_eq : run (Timer.paced τ selects pace) l (Sink.lines τ) es s v = (.ok t, u))
      (registered : t.registered = s.registered ++ (loaded as).map (·.name))
      (skipped : t.skipped = s.skipped ++ failures as)
  | panics (as₁ as₂ : List (Load τ)) (a : Load τ) (e : TransformError) (u : World τ)
      (split : as = as₁ ++ a :: as₂)
      (spared : ∀ b ∈ as₁, ¬Fatal selects s.scope.name l ds w b)
      (fatal : Fatal selects s.scope.name l ds w a)
      (called : l.Called ds w a.descriptor (.failed e))
      (run_eq : run (Timer.paced τ selects pace) l (Sink.lines τ)
          (as₁.map (·.descriptor) ++ [a.descriptor]) s v =
        (.error (.formatted (Timer.failureText a.descriptor.name e)), u))

/-- A step that goes on from a load that is not fatal. -/
lemma Alongside.cons {d : Descriptor τ} {es : List (Descriptor τ)} {a : Load τ}
    {as : List (Load τ)} {s t : Sweep TimedSuite (List String)} {v u : World τ}
    (ha : a.descriptor = d) (hf : ¬Fatal selects s.scope.name l ds w a)
    (hs : step (Timer.paced τ selects pace) l (Sink.lines τ) d s v = (.ok t, u))
    (hn : t.scope.name = s.scope.name)
    (hr : t.registered = s.registered ++ (loaded [a]).map (·.name))
    (hk : t.skipped = s.skipped ++ failures [a])
    (h : Alongside selects pace l ds w es as t u) :
    Alongside selects pace l ds w (d :: es) (a :: as) s v := by
  cases h with
  | ends t' u' spared run_eq registered skipped =>
    rw [hn] at spared
    refine .ends t' u' (List.forall_mem_cons.2 ⟨hf, spared⟩) ((run_cons_ok hs).trans run_eq) ?_ ?_
    · rw [registered, hr, loaded_cons a as, List.map_append, List.append_assoc]
    · rw [skipped, hk, failures_cons a as, List.append_assoc]
  | panics as₁ as₂ b e x split spared fatal called run_eq =>
    rw [hn] at spared fatal
    refine .panics (a :: as₁) as₂ b e x (by rw [split, List.cons_append])
      (List.forall_mem_cons.2 ⟨hf, spared⟩) fatal called ?_
    rw [List.map_cons, List.cons_append, ha, run_cons_ok hs]
    exact run_eq

/-- A sweep with a timer goes alongside the loads of a recorder in any world in which the same ones
fail.  The induction is on the descriptors; what the timer runs may change the world, but not the
verdicts on what follows. -/
lemma alongside (hu : l.Uniform ds w) {es : List (Descriptor τ)} (he : ∀ d ∈ es, d ∈ ds)
    {s : Sweep TimedSuite (List String)} {v u : World τ} (hv : l.Comes ds w v [])
    (hd : Undisturbed (Timer.paced τ selects pace) l (Sink.lines τ) es s v)
    (ha : verdicts (l.loadAll es v).1 = verdicts (l.loadAll es u).1) :
    Alongside selects pace l ds w es (l.loadAll es u).1 s v := by
  induction es generalizing s v u with
  | nil => exact .ends s v (by simp) rfl (by simp) (by simp)
  | cons d es ih =>
    obtain ⟨hdm, hem⟩ := List.forall_mem_cons.1 he
    rcases hlv : l.load d v with ⟨f | b, v'⟩ <;> rcases hlu : l.load d u with ⟨g | c, u'⟩ <;>
      rw [Loader.loadAll_cons hlv, Loader.loadAll_cons hlu, verdicts_cons, verdicts_cons,
        List.cons.injEq] at ha <;> obtain ⟨hh, ht⟩ := ha
    case error.error =>
      cases hh
      rw [Loader.loadAll_cons hlu]
      have hs : step (Timer.paced τ selects pace) l (Sink.lines τ) d s v =
          (.ok { s with skipped := s.skipped ++ [f], sink := s.sink ++ [f.message] }, v') :=
        step_error hlv
      exact .cons rfl (fun hf => by cases hf.1) hs rfl (by simp) rfl
        (ih hem (hv.failed hdm hlv) (hd.tail hs) ht)
    case ok.ok =>
      rw [Loader.loadAll_cons hlu]
      have hb : b.name = d.name := Loader.load_ok hlv
      have hc : c.name = d.name := Loader.load_ok hlu
      have hheld := hv.loaded hdm hlv
      by_cases hf : selects (Timer.identifier s.scope.name d.name) = true ∧ l.Fallible ds w d
      · obtain ⟨e, x, hce, hx⟩ : ∃ e x, l.Called ds w d (.failed e) ∧
            (Timer.paced τ selects pace).declare b s.scope v' =
              (.error (.formatted (Timer.failureText b.name e)), x) :=
          Timer.exists_declare_error hu hdm hheld (hb ▸ hf.1) hf.2
        refine .panics [] _ _ e x rfl (by simp) ⟨rfl, hf⟩ hce (run_cons_error ?_)
        simp [step, hlv, hx, hb]
      · obtain ⟨scope, x, hx⟩ : ∃ scope x,
            (Timer.paced τ selects pace).declare b s.scope v' = (.ok scope, x) :=
          Timer.exists_declare_ok hu hdm hheld fun hs hfl => hf ⟨hb ▸ hs, hfl⟩
        have hs : step (Timer.paced τ selects pace) l (Sink.lines τ) d s v =
            (.ok { s with scope, registered := s.registered ++ [b.name] }, x) := step_ok hlv hx
        obtain ⟨hcx, hn⟩ := Timer.comes_of_declare hheld hx
        refine .cons rfl (fun hfa => hf hfa.2) hs hn (by simp [hb, hc]) (by simp)
          (ih hem hcx (hd.tail hs) ?_)
        rw [hd [] d es s v b v' scope x rfl rfl hlv hx, ht]
    all_goals cases hh

end Sweep

end BenchRoster
