/-
# Loads inside of loads

A resolver or an adapter may load backends itself, and these may load others in their turn.  Each
load contains what goes wrong in it: a panic ends the innermost load around it and is reported by
that load alone, and all the loads further out go on with the answer.

* `Loader.Loads` tells a load by what the resolver and the adapter do, with one constructor for each
  way that it can end, and `Loader.loads_iff` says that a load is as told;
* `Routine` is code that loads backends on its way, to any depth, and logs how its loads begin and
  end;
* `Course` and `Contained` say what the log of one load, and of several, looks like when panics are
  contained, and `Routine.logs_action` that the log of each routine does;
* `Loader.load_contained` puts the two together.
-/
import BenchRoster.Proofs.Sweep

namespace BenchRoster

/-! ## One load -/

namespace World

variable {τ : Type}

/-- The world in which the attempt of a load begins. -/
def beginLoading (w : World τ) : World τ := { w with alarm := w.alarm.beginLoading }

/-- The world after a load that was begun in another one. -/
def endLoading (v w : World τ) : World τ :=
  { v with alarm := v.alarm.endLoading w.alarm.loading }

end World

namespace Loader

variable {τ : Type}

/-- One load, told by what the resolver and the adapter do: what the load answers, and the world
that it leaves.  The adapter runs only where the resolver has found a handle, once and on this
handle. -/
inductive Loads (l : Loader τ) (d : Descriptor τ) (w : World τ) :
    Except LoadFailure (LoadedBackend τ) × World τ → Prop
  | unresolved {e : ResolveError} {v : World τ}
      (hr : l.resolver d.locator w.beginLoading = (.failed e, v)) :
      Loads l d w (.error ⟨d.name, d.locator, .resolve e⟩, v.endLoading w)
  | resolverPanicked {p : Payload} {v : World τ}
      (hr : l.resolver d.locator w.beginLoading = (.panicked p, v)) :
      Loads l d w (.error ⟨d.name, d.locator, .panicked p.message⟩, v.endLoading w)
  | unadapted {h : Handle τ} {e : AdaptError} {v u : World τ}
      (hr : l.resolver d.locator w.beginLoading = (.done h, v))
      (ha : d.adapter h v = (.failed e, u)) :
      Loads l d w (.error ⟨d.name, d.locator, .adapt e⟩, u.endLoading w)
  | adapterPanicked {h : Handle τ} {p : Payload} {v u : World τ}
      (hr : l.resolver d.locator w.beginLoading = (.done h, v))
      (ha : d.adapter h v = (.panicked p, u)) :
      Loads l d w (.error ⟨d.name, d.locator, .panicked p.message⟩, u.endLoading w)
  | loaded {h : Handle τ} {i : Invocation τ} {v u : World τ}
      (hr : l.resolver d.locator w.beginLoading = (.done h, v))
      (ha : d.adapter h v = (.done i, u)) :
      Loads l d w (.ok (i.bound d.name l.workload.source), u.endLoading w)

/-- A load leaves the world of its attempt. -/
lemma snd_load_of_attempt {l : Loader τ} {d : Descriptor τ} {w v : World τ}
    {o : Outcome LoadError (Invocation τ)} (h : l.attempt d w.beginLoading = (o, v)) :
    (l.load d w).2 = v.endLoading w := by
  have hs := snd_load l d w
  rw [show l.attempt d { w with alarm := w.alarm.beginLoading } = (o, v) from h] at hs
  exact hs

/-- An attempt without a cause of failure gives a backend. -/
lemma load_eq_ok {l : Loader τ} {d : Descriptor τ} {w v : World τ} {i : Invocation τ}
    (h : l.attempt d w.beginLoading = (.done i, v)) :
    l.load d w = (.ok (i.bound d.name l.workload.source), v.endLoading w) := by
  have hc : cause (l.attempt d w.beginLoading).1 = .ok i := by rw [h]; rfl
  exact Prod.ext (fst_load_ok hc) (snd_load_of_attempt h)

/-- An attempt with a cause of failure gives a failure of that cause. -/
lemma load_eq_error {l : Loader τ} {d : Descriptor τ} {w v : World τ}
    {o : Outcome LoadError (Invocation τ)} {e : LoadError}
    (h : l.attempt d w.beginLoading = (o, v)) (he : cause o = .error e) :
    l.load d w = (.error ⟨d.name, d.locator, e⟩, v.endLoading w) := by
  have hc : cause (l.attempt d w.beginLoading).1 = .error e := by rw [h]; exact he
  exact Prod.ext (fst_load_error hc) (snd_load_of_attempt h)

/-- With a handle the attempt ends as the adapter does. -/
lemma attempt_of_adapter {l : Loader τ} {d : Descriptor τ} {w v u : World τ} {h : Handle τ}
    {o : Outcome AdaptError (Invocation τ)} (hr : l.resolver d.locator w = (.done h, v))
    (ha : d.adapter h v = (o, u)) : l.attempt d w = (o.mapError .adapt, u) := by
  rw [attempt_done hr, Action.mapError, ha]

/-- A load ends as told. -/
lemma Loads.eq {l : Loader τ} {d : Descriptor τ} {w : World τ}
    {x : Except LoadFailure (LoadedBackend τ) × World τ} (h : Loads l d w x) : l.load d w = x := by
  cases h with
  | unresolved hr => exact load_eq_error (attempt_failed hr) rfl
  | resolverPanicked hr => exact load_eq_error (attempt_panicked hr) rfl
  | unadapted hr ha => exact load_eq_error (attempt_of_adapter hr ha) rfl
  | adapterPanicked hr ha => exact load_eq_error (attempt_of_adapter hr ha) rfl
  | loaded hr ha => exact load_eq_ok (attempt_of_adapter hr ha)

/-- There is a way in which a load ends, whatever the resolver and the adapter do. -/
lemma exists_loads (l : Loader τ) (d : Descriptor τ) (w : World τ) : ∃ x, Loads l d w x := by
  rcases hr : l.resolver d.locator w.beginLoading with ⟨h | e | p, v⟩
  · rcases ha : d.adapter h v with ⟨i | e | p, u⟩
    · exact ⟨_, .loaded hr ha⟩
    · exact ⟨_, .unadapted hr ha⟩
    · exact ⟨_, .adapterPanicked hr ha⟩
  · exact ⟨_, .unresolved hr⟩
  · exact ⟨_, .resolverPanicked hr⟩

/-- A load succeeds exactly if the resolver finds a handle and the adapter makes an invocation. -/
lemma isOk_iff {l : Loader τ} {d : Descriptor τ} {w : World τ} :
    (l.load d w).1.isOk = true ↔ ∃ h v i u,
      l.resolver d.locator w.beginLoading = (.done h, v) ∧ d.adapter h v = (.done i, u) := by
  constructor
  · intro hok
    obtain ⟨x, hx⟩ := exists_loads l d w
    rw [hx.eq] at hok
    cases hx with
    | loaded hr ha => exact ⟨_, _, _, _, hr, ha⟩
    | _ => cases hok
  · rintro ⟨h, v, i, u, hr, ha⟩
    rw [(Loads.loaded hr ha).eq]
    rfl

lemma loads_iff {l : Loader τ} {d : Descriptor τ} {w : World τ}
    {x : Except LoadFailure (LoadedBackend τ) × World τ} : Loads l d w x ↔ l.load d w = x := by
  constructor
  · exact Loads.eq
  · rintro rfl
    obtain ⟨x, hx⟩ := exists_loads l d w
    rw [hx.eq]
    exact hx

end Loader

/-! ## Logs of loads -/

/-- What can be told of loads from inside. -/
inductive LoadEvent where
  | begun (backend : BackendName) (locator : Locator)
  /-- A handle has been found, and the adapter begins. -/
  | adapting (backend : BackendName)
  | raised (payload : Payload)
  /-- The code around a panic has caught it, without a load in between. -/
  | caught (payload : Payload)
  | ended (backend : BackendName) (locator : Locator) (error : Option LoadError)
deriving DecidableEq

/-- The text of a panic, if one is what went wrong. -/
def LoadError.panic? : LoadError → Option String
  | resolve _ => none
  | adapt _ => none
  | panicked m => some m

namespace LoadEvent

/-- The text of the panic that is raised, if one is. -/
def raisedText : LoadEvent → List String
  | raised p => [p.message]
  | _ => []

/-- The text of the panic that is caught or reported, if one is. -/
def settledText : LoadEvent → List String
  | caught p => [p.message]
  | ended _ _ e => (e.bind LoadError.panic?).toList
  | _ => []

end LoadEvent

namespace Outcome

variable {ε α : Type}

/-- The panic that is on its way. -/
def raised : Outcome ε α → List LoadEvent
  | panicked p => [.raised p]
  | _ => []

/-- The panic that has come to its end. -/
def caught : Outcome ε α → List LoadEvent
  | panicked p => [.caught p]
  | _ => []

end Outcome

mutual

/-- What happens in the load of a backend between its beginning and its end, if it ends with the
error: the loads of its resolver, and then those of its adapter.  A panic that ends the load is the
last event in it. -/
inductive Course : BackendName → Option LoadError → List LoadEvent → Prop
  | unresolved {n : BackendName} {es : List LoadEvent} (e : ResolveError) (h : Contained es) :
      Course n (some (.resolve e)) es
  | resolverPanicked {n : BackendName} {es : List LoadEvent} (p : Payload) (h : Contained es) :
      Course n (some (.panicked p.message)) (es ++ [.raised p])
  | unadapted {n : BackendName} {es fs : List LoadEvent} (e : AdaptError) (h : Contained es)
      (k : Contained fs) : Course n (some (.adapt e)) (es ++ .adapting n :: fs)
  | adapterPanicked {n : BackendName} {es fs : List LoadEvent} (p : Payload) (h : Contained es)
      (k : Contained fs) :
      Course n (some (.panicked p.message)) (es ++ .adapting n :: (fs ++ [.raised p]))
  | loaded {n : BackendName} {es fs : List LoadEvent} (h : Contained es) (k : Contained fs) :
      Course n none (es ++ .adapting n :: fs)

/-- Loads one after the other, from each of which no panic gets out. -/
inductive Contained : List LoadEvent → Prop
  | nil : Contained []
  | caught {es : List LoadEvent} (p : Payload) (h : Contained es) :
      Contained (.raised p :: .caught p :: es)
  | load {n : BackendName} {e : Option LoadError} {es fs : List LoadEvent} (l : Locator)
      (h : Course n e es) (k : Contained fs) : Contained (.begun n l :: (es ++ .ended n l e :: fs))

end

lemma Contained.append {es fs : List LoadEvent} (h : Contained es) (k : Contained fs) :
    Contained (es ++ fs) := by
  match h with
  | .nil => exact k
  | .caught p h => exact .caught p (h.append k)
  | .load l c h =>
    have hl := Contained.load l c (h.append k)
    simpa using hl

/-- A panic that comes out of some code is settled where that code is guarded. -/
lemma Contained.guarded {ε α : Type} {es : List LoadEvent} (h : Contained es)
    (o : Outcome ε α) : Contained (o.raised ++ (o.caught ++ es)) := by
  cases o with
  | done a => exact h
  | failed e => exact h
  | panicked p => exact .caught p h

mutual

/-- In the course of a load each panic is settled before the next one is raised, but for the one
that the load ends with. -/
lemma Course.settled {n : BackendName} {e : Option LoadError} {es : List LoadEvent}
    (h : Course n e es) :
    es.flatMap LoadEvent.raisedText =
      es.flatMap LoadEvent.settledText ++ (e.bind LoadError.panic?).toList := by
  match h with
  | .unresolved e h =>
    have hs := h.settled
    simp [hs, LoadError.panic?]
  | .resolverPanicked p h =>
    have hs := h.settled
    simp [hs, LoadError.panic?, LoadEvent.raisedText, LoadEvent.settledText]
  | .unadapted e h k =>
    have hs := h.settled
    have ks := k.settled
    simp [hs, ks, LoadError.panic?, LoadEvent.raisedText, LoadEvent.settledText]
  | .adapterPanicked p h k =>
    have hs := h.settled
    have ks := k.settled
    simp [hs, ks, LoadError.panic?, LoadEvent.raisedText, LoadEvent.settledText]
  | .loaded h k =>
    have hs := h.settled
    have ks := k.settled
    simp [hs, ks, LoadEvent.raisedText, LoadEvent.settledText]

/-- Each panic that is raised is caught or reported once, and before the next one is raised. -/
lemma Contained.settled {es : List LoadEvent} (h : Contained es) :
    es.flatMap LoadEvent.raisedText = es.flatMap LoadEvent.settledText := by
  match h with
  | .nil => rfl
  | .caught p h =>
    have hs := h.settled
    simp [hs, LoadEvent.raisedText, LoadEvent.settledText]
  | .load l c h =>
    have hc := c.settled
    have hs := h.settled
    simp [hc, hs, LoadEvent.raisedText, LoadEvent.settledText]

end

/-! ## Code that loads -/

/-- What a program keeps, and the log of its loads. -/
structure LoadLog (τ : Type) where
  events : List LoadEvent := []
  rest : τ

namespace World

variable {τ : Type}

def loadLog (w : World (LoadLog τ)) : List LoadEvent := w.ambient.events

/-- Goes on with the log. -/
def log (w : World (LoadLog τ)) (es : List LoadEvent) : World (LoadLog τ) :=
  { w with ambient := { w.ambient with events := w.ambient.events ++ es } }

@[simp] lemma loadLog_log (w : World (LoadLog τ)) (es : List LoadEvent) :
    (w.log es).loadLog = w.loadLog ++ es := rfl

@[simp] lemma loadLog_beginLoading (w : World (LoadLog τ)) :
    w.beginLoading.loadLog = w.loadLog := rfl

@[simp] lemma loadLog_endLoading (v w : World (LoadLog τ)) :
    (v.endLoading w).loadLog = v.loadLog := rfl

end World

/-- The action leaves the log alone. -/
def Action.Unlogged {τ ε α : Type} (x : Action (LoadLog τ) ε α) : Prop :=
  ∀ w, (x w).2.loadLog = w.loadLog

/-- The action goes on with the log by loads that contain their panics, and by the panic that it
ends with itself. -/
def Action.LogsLoads {τ ε α : Type} (x : Action (LoadLog τ) ε α) : Prop :=
  ∀ w, ∃ es, Contained es ∧ (x w).2.loadLog = w.loadLog ++ (es ++ (x w).1.raised)

/-- The error that a load has ended with, if it has failed. -/
def Loader.error? {τ : Type} : Except LoadFailure (LoadedBackend τ) → Option LoadError
  | .ok _ => none
  | .error f => some f.error

/-- Loads a backend, and logs that the load begins, that the adapter begins, and how it ends. -/
def Loader.loadLogged {τ : Type} (l : Loader (LoadLog τ)) (d : Descriptor (LoadLog τ))
    (w : World (LoadLog τ)) :
    Except LoadFailure (LoadedBackend (LoadLog τ)) × World (LoadLog τ) :=
  let adapter : Adapter (LoadLog τ) := fun h w => d.adapter h (w.log [.adapting d.name])
  let x := l.load { d with adapter } (w.log [.begun d.name d.locator])
  (x.1, x.2.log [.ended d.name d.locator (error? x.1)])

/-- What an action that logs its loads has added to the log. -/
lemma Action.LogsLoads.exists_of_eq {τ ε α : Type} {x : Action (LoadLog τ) ε α}
    (hx : x.LogsLoads) {w v : World (LoadLog τ)} {o : Outcome ε α} (h : x w = (o, v)) :
    ∃ es, Contained es ∧ v.loadLog = w.loadLog ++ (es ++ o.raised) := by
  have hw := hx w
  rw [h] at hw
  exact hw

/-- A load whose resolver and adapter contain their loads is logged as one load with its course. -/
lemma Loader.exists_course {τ : Type} {l : Loader (LoadLog τ)} {d : Descriptor (LoadLog τ)}
    (hr : (l.resolver d.locator).LogsLoads) (ha : ∀ h, (d.adapter h).LogsLoads)
    {w u : World (LoadLog τ)} {answer : Except LoadFailure (LoadedBackend (LoadLog τ))}
    (hu : l.loadLogged d w = (answer, u)) :
    ∃ es, Course d.name (error? answer) es ∧
      u.loadLog = w.loadLog ++
        .begun d.name d.locator :: (es ++ [.ended d.name d.locator (error? answer)]) := by
  obtain ⟨x, hx⟩ := exists_loads l
    { d with adapter := fun h w => d.adapter h (w.log [.adapting d.name]) }
    (w.log [.begun d.name d.locator])
  have he := hx.eq
  rw [loadLogged, he] at hu
  cases hu
  cases hx with
  | unresolved h =>
    obtain ⟨es, hes, hlog⟩ := hr.exists_of_eq h
    exact ⟨es, .unresolved _ hes, by simp [hlog, error?, Outcome.raised]⟩
  | resolverPanicked h =>
    obtain ⟨es, hes, hlog⟩ := hr.exists_of_eq h
    exact ⟨_, .resolverPanicked _ hes, by simp [hlog, error?, Outcome.raised]⟩
  | unadapted h k =>
    obtain ⟨es, hes, hlog⟩ := hr.exists_of_eq h
    obtain ⟨fs, hfs, klog⟩ := (ha _).exists_of_eq k
    exact ⟨_, .unadapted _ hes hfs, by simp [hlog, klog, error?, Outcome.raised]⟩
  | adapterPanicked h k =>
    obtain ⟨es, hes, hlog⟩ := hr.exists_of_eq h
    obtain ⟨fs, hfs, klog⟩ := (ha _).exists_of_eq k
    exact ⟨_, .adapterPanicked _ hes hfs, by simp [hlog, klog, error?, Outcome.raised]⟩
  | loaded h k =>
    obtain ⟨es, hes, hlog⟩ := hr.exists_of_eq h
    obtain ⟨fs, hfs, klog⟩ := (ha _).exists_of_eq k
    exact ⟨_, .loaded hes hfs, by simp [hlog, klog, error?, Outcome.raised]⟩

/-- Code that loads backends on its way.  The resolvers and the adapters of these loads are such
code again, and so loads are nested in each other to any depth. -/
inductive Routine (τ : Type) : Type → Type → Type 1 where
  /-- Ends with a value or an error. -/
  | finish {ε α : Type} (r : Except ε α) : Routine τ ε α
  /-- Does anything that is not logged, and goes on unless it panics. -/
  | step {δ β ε α : Type} (x : Action (LoadLog τ) δ β) (unlogged : x.Unlogged)
      (next : Except δ β → Routine τ ε α) : Routine τ ε α
  /-- Catches the panic that other code may end with, and goes on. -/
  | guarded {δ β ε α : Type} (r : Routine τ δ β) (next : Outcome δ β → Routine τ ε α) :
      Routine τ ε α
  /-- Loads a backend, and goes on with the answer. -/
  | load {ε α : Type} (workload : Workload) (backend : BackendName) (locator : Locator)
      (resolver : Locator → Routine τ ResolveError (Handle (LoadLog τ)))
      (adapter : Handle (LoadLog τ) → Routine τ AdaptError (Invocation (LoadLog τ)))
      (next : Except LoadFailure (LoadedBackend (LoadLog τ)) → Routine τ ε α) : Routine τ ε α

namespace Routine

variable {τ : Type}

/-- Panics. -/
def panic {ε α : Type} (p : Payload) : Routine τ ε α :=
  step (.panic p : Action (LoadLog τ) Empty Empty) (fun _ => rfl) fun
    | .ok b => b.elim
    | .error e => e.elim

/-- What the code does in a world. -/
def action {ε α : Type} : Routine τ ε α → Action (LoadLog τ) ε α
  | finish r => .ofExcept r
  | step x _ next => fun w =>
    match x w with
    | (.done b, v) => (next (.ok b)).action v
    | (.failed e, v) => (next (.error e)).action v
    | (.panicked p, v) => (.panicked p, v.log [.raised p])
  | guarded r next => fun w =>
    let x := r.action w
    (next x.1).action (x.2.log x.1.caught)
  | load workload backend locator resolver adapter next => fun w =>
    let l : Loader (LoadLog τ) := { resolver := fun l => (resolver l).action, workload }
    let x := l.loadLogged ⟨backend, locator, fun h => (adapter h).action⟩ w
    (next x.1).action x.2

/-- The loader with such code as its resolver. -/
def loader (workload : Workload)
    (resolver : Locator → Routine τ ResolveError (Handle (LoadLog τ))) : Loader (LoadLog τ) :=
  { resolver := fun l => (resolver l).action, workload }

/-- The descriptor with such code as its adapter. -/
def descriptor (n : BackendName) (l : Locator)
    (adapter : Handle (LoadLog τ) → Routine τ AdaptError (Invocation (LoadLog τ))) :
    Descriptor (LoadLog τ) :=
  { name := n, locator := l, adapter := fun h => (adapter h).action }

section Action

variable {δ β ε α : Type} {x : Action (LoadLog τ) δ β} {hx : x.Unlogged}
  {next : Except δ β → Routine τ ε α} {w v : World (LoadLog τ)}

lemma action_step_done {b : β} (h : x w = (.done b, v)) :
    (step x hx next).action w = (next (.ok b)).action v := by
  simp [action, h]

lemma action_step_failed {e : δ} (h : x w = (.failed e, v)) :
    (step x hx next).action w = (next (.error e)).action v := by
  simp [action, h]

lemma action_step_panicked {p : Payload} (h : x w = (.panicked p, v)) :
    (step x hx next).action w = (.panicked p, v.log [.raised p]) := by
  simp [action, h]

lemma action_load {workload : Workload} {n : BackendName} {l : Locator}
    {resolver : Locator → Routine τ ResolveError (Handle (LoadLog τ))}
    {adapter : Handle (LoadLog τ) → Routine τ AdaptError (Invocation (LoadLog τ))}
    {next : Except LoadFailure (LoadedBackend (LoadLog τ)) → Routine τ ε α}
    {answer : Except LoadFailure (LoadedBackend (LoadLog τ))}
    (h : (loader workload resolver).loadLogged (descriptor n l adapter) w = (answer, v)) :
    (load workload n l resolver adapter next).action w = (next answer).action v := by
  have hn : (load workload n l resolver adapter next).action w =
      (next ((loader workload resolver).loadLogged (descriptor n l adapter) w).1).action
        ((loader workload resolver).loadLogged (descriptor n l adapter) w).2 := rfl
  rw [hn, h]

end Action

/-- Code logs the loads that it makes, each with its course, and the panic that it ends with. -/
lemma logs_action {ε α : Type} (r : Routine τ ε α) : r.action.LogsLoads := by
  induction r with
  | finish r =>
    intro w
    refine ⟨[], .nil, ?_⟩
    cases r <;> simp [action, Action.ofExcept, Outcome.ofExcept, Outcome.raised]
  | step x hx next ih =>
    intro w
    have hw := hx w
    rcases h : x w with ⟨b | e | p, v⟩
    · rw [h] at hw
      rw [action_step_done h, ← hw]
      exact ih (.ok b) v
    · rw [h] at hw
      rw [action_step_failed h, ← hw]
      exact ih (.error e) v
    · rw [h] at hw
      rw [action_step_panicked h, ← hw]
      exact ⟨[], .nil, rfl⟩
  | guarded r next ihr ih =>
    intro w
    obtain ⟨es, hes, hlog⟩ := ihr w
    obtain ⟨fs, hfs, klog⟩ := ih (r.action w).1 ((r.action w).2.log (r.action w).1.caught)
    refine ⟨_, hes.append (hfs.guarded (r.action w).1), ?_⟩
    simp only [action, klog, World.loadLog_log, hlog, List.append_assoc]
  | load workload n l resolver adapter next ihr iha ih =>
    intro w
    rcases h : (loader workload resolver).loadLogged (descriptor n l adapter) w with ⟨answer, v⟩
    -- the load is logged with its course, and what follows goes on behind it
    obtain ⟨es, hes, hlog⟩ := Loader.exists_course (ihr l) iha h
    obtain ⟨fs, hfs, klog⟩ := ih answer v
    refine ⟨_, .load l hes hfs, ?_⟩
    rw [action_load h, klog, hlog]
    simp [descriptor]

end Routine

namespace NestedLoads

def outer : BackendName := ⟨"outer", by decide +kernel⟩
def inner : BackendName := ⟨"inner", by decide +kernel⟩
def place : Locator := ⟨"place", by decide +kernel⟩

/-- Finds a handle, after a panic of its own that it has caught. -/
def resolver : Locator → Routine Unit ResolveError (Handle (LoadLog Unit)) := fun _ =>
  .guarded (.panic .other : Routine Unit Unit Unit) fun _ => .finish (.ok fun _ _ => .pure [])

/-- Loads a backend whose adapter panics, and makes an invocation whatever comes of it. -/
def adapter : Handle (LoadLog Unit) → Routine Unit AdaptError (Invocation (LoadLog Unit)) :=
  fun h => .load Workload.fixed inner place (fun _ => .finish (.ok h))
    (fun _ => .panic (.fixed "exploded"))
    fun _ => .finish (.ok { call := fun source => h source [] })

example :
    ((Routine.loader Workload.fixed resolver).loadLogged (Routine.descriptor outer place adapter)
      { machine := .fresh, ambient := { rest := () } }).2.loadLog =
      [.begun outer place, .raised .other, .caught .other, .adapting outer,
        .begun inner place, .adapting inner, .raised (.fixed "exploded"),
        .ended inner place (some (.panicked "exploded")), .ended outer place none] := rfl

end NestedLoads

end BenchRoster
