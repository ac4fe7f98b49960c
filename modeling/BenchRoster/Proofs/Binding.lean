/-
# Backends stay bound to their handles

A table of handles may change after a backend was loaded from it, several backends may share a
handle, and a handle may have a state that every call changes.  None of this matters to a backend
that has been loaded: it goes on calling the handle that its locator stood for when it was loaded,
with the same arguments every time, and passes on what that handle gives.

The statement is one of simulation.  An ideal program keeps, for each backend, nothing but a handle
and the arguments, and for each handle its state; the real one keeps closures.

* `Transformer` is a handle with a state, and `Shelf` holds the states of several with the calls
  that they have received;
* `Workshop.step` is one deed of a program with a table, a recorder and loads of its own;
* `Ideal.Step` is one step of the ideal program, and `Ideal.Steps` are several;
* `Workshop.step_simulates` is the simulation of one deed, and `Workshop.run_ideal` that of a run.
-/
import BenchRoster.Proofs.Forwarding
import BenchRoster.Proofs.Session
import Mathlib.Data.List.Forall2
import Mathlib.Logic.Function.Basic

namespace BenchRoster

/-! ## Transformers with a state -/

/-- Transforms sources, and changes its state by doing so. -/
structure Transformer where
  State : Type
  transform : String → List String → State → Outcome TransformError Bytes × State

/-- Calls a transformer directly, several times one after the other. -/
def Transformer.calls (t : Transformer) :
    List (String × List String) → t.State → List (Outcome TransformError Bytes) × t.State
  | [], s => ([], s)
  | c :: cs, s =>
    ((t.transform c.1 c.2 s).1 :: (t.calls cs (t.transform c.1 c.2 s).2).1,
      (t.calls cs (t.transform c.1 c.2 s).2).2)

lemma Transformer.calls_append (t : Transformer) (cs ds : List (String × List String))
    (s : t.State) :
    t.calls (cs ++ ds) s =
      ((t.calls cs s).1 ++ (t.calls ds (t.calls cs s).2).1, (t.calls ds (t.calls cs s).2).2) := by
  induction cs generalizing s with
  | nil => rfl
  | cons c cs ih => rw [List.cons_append, calls, ih, calls, List.cons_append]

/-- A call that a handle has received, with its outcome. -/
structure HandleCall (κ : Type) where
  handle : κ
  source : String
  args : List String
  outcome : Outcome TransformError Bytes

variable {κ : Type} [DecidableEq κ] {t : κ → Transformer}

/-- The states of some transformers, and the calls that they have received so far. -/
structure Shelf (t : κ → Transformer) where
  states : ∀ k, (t k).State
  calls : List (HandleCall κ) := []

namespace Shelf

/-- Lets a panic be heard, if the outcome is one. -/
def heard (a : Alarm) : Outcome TransformError Bytes → Alarm
  | .panicked p => a.sound p
  | _ => a

/-- One of the transformers as a handle; its calls are noted down. -/
def handle (t : κ → Transformer) (k : κ) : Handle (Shelf t) := fun source args w =>
  let r := (t k).transform source args (w.ambient.states k)
  (r.1,
    { w with
      alarm := heard w.alarm r.1,
      ambient :=
        { states := Function.update w.ambient.states k r.2,
          calls := w.ambient.calls ++ [⟨k, source, args, r.1⟩] } })

end Shelf

/-! ## Programs that load, register and call -/

/-- A descriptor whose adapter forwards. -/
structure Forwarder (τ : Type) where
  descriptor : Descriptor τ
  requests : List String → Prop
  forwards : descriptor.adapter.Forwards requests

/-- A suite of such descriptors. -/
structure ForwarderSuite (τ : Type) where
  name : SuiteName
  members : List (Forwarder τ)
  distinct : ((members.map Forwarder.descriptor).map (·.name)).Nodup

def ForwarderSuite.suite {τ : Type} (q : ForwarderSuite τ) : Suite τ :=
  ⟨q.name, ⟨q.members.map Forwarder.descriptor, q.distinct⟩⟩

/-- What a program does. -/
inductive Deed (t : κ → Transformer) where
  /-- Puts a handle into the table. -/
  | insert (locator : String) (k : κ)
  /-- Loads a backend, and keeps it. -/
  | load (d : Forwarder (Shelf t))
  /-- Registers a suite that was made before. -/
  | register (q : ForwarderSuite (Shelf t))
  /-- Checks a definition and registers it. -/
  | registerSuite (name : String) (ds : List (Forwarder (Shelf t)))
  /-- Calls a backend that it keeps. -/
  | call (i : ℕ)
  /-- Calls a recorded backend, by its place and that of its suite. -/
  | invoke (i j : ℕ)
  /-- Takes the recorded suites out, and keeps their backends. -/
  | take

/-- What it is told. -/
inductive Reply (t : κ → Transformer) where
  | loaded (name : BackendName)
  | failed (f : LoadFailure)
  /-- Everything else is told as in a session. -/
  | answer (a : Answer (Shelf t))

/-- A deed with the reply to it, and the calls that handles have received meanwhile. -/
structure Transaction (t : κ → Transformer) where
  deed : Deed t
  reply : Reply t
  received : List (HandleCall κ)

/-- The outcome that was observed, if a backend was called. -/
def Transaction.outcome? (x : Transaction t) : Option (Outcome TransformError Bytes) :=
  match x.reply with
  | .answer (.called r) => some r
  | _ => none

/-- What a program works with: a session, and the backends that it keeps itself. -/
structure Workshop (t : κ → Transformer) where
  session : Session (Shelf t)
  held : List (LoadedBackend (Shelf t)) := []

namespace Workshop

/-- The loader finds what is in the table at that moment. -/
def loader (table : HandleTable (Shelf t)) : Loader (Shelf t) := { resolver := table.resolver }

/-- An operation of the session. -/
def operate (s : Workshop t) (o : Operation (Shelf t)) : Reply t × Workshop t :=
  (.answer (s.session.step loader o).1, { s with session := (s.session.step loader o).2 })

/-- One deed. -/
def step (s : Workshop t) : Deed t → Reply t × Workshop t
  | .insert locator k => s.operate (.insert locator (Shelf.handle t k))
  | .load d =>
    match (loader s.session.table).load d.descriptor s.session.world with
    | (.ok b, w) => (.loaded b.name, ⟨{ s.session with world := w }, s.held ++ [b]⟩)
    | (.error f, w) => (.failed f, { s with session := { s.session with world := w } })
  | .register q => s.operate (.register q.suite)
  | .registerSuite name ds => s.operate (.registerSuite name (ds.map Forwarder.descriptor))
  | .call i =>
    match s.held[i]? with
    | some b =>
      (.answer (.called (b.call s.session.world).1),
        { s with session := { s.session with world := (b.call s.session.world).2 } })
    | none => (.answer .absent, s)
  | .invoke i j => s.operate (.invoke i j)
  | .take =>
    let kept := s.session.recorder.suites.flatMap (·.benchmarks)
    ((s.operate .take).1, { (s.operate .take).2 with held := s.held ++ kept })

/-- The calls that handles have received so far. -/
def calls (s : Workshop t) : List (HandleCall κ) := s.session.world.ambient.calls

/-- A deed, what is told, and the calls that are new afterwards. -/
def transaction (s : Workshop t) (d : Deed t) : Transaction t :=
  ⟨d, (s.step d).1, (s.step d).2.calls.drop s.calls.length⟩

/-- A run of deeds: its history, and the workshop afterwards. -/
def run : List (Deed t) → Workshop t → List (Transaction t) × Workshop t
  | [], s => ([], s)
  | d :: ds, s => (s.transaction d :: (run ds (s.step d).2).1, (run ds (s.step d).2).2)

end Workshop

/-! ## The ideal program -/

/-- What a loaded backend is bound to: a handle, and the arguments of every call. -/
structure Tie (κ : Type) where
  handle : κ
  request : List String

/-- What the ideal program keeps: which handle is in the table under a locator, the ties of the
backends, and the states of the handles. -/
structure Ideal (t : κ → Transformer) where
  table : String → Option κ
  held : List (Tie κ)
  suites : List (List (Tie κ))
  states : ∀ k, (t k).State

namespace Ideal

/-- A backend that is loaded now is tied to the handle that is in the table now. -/
def Ties (s : Ideal t) (d : Forwarder (Shelf t)) (x : Tie κ) : Prop :=
  s.table d.descriptor.locator.text = some x.handle ∧ d.requests x.request

/-- The outcome of calling a tie, with the state of its handle afterwards. -/
def outcome (s : Ideal t) (x : Tie κ) : Outcome TransformError Bytes × (t x.handle).State :=
  (t x.handle).transform Workload.fixed.source x.request (s.states x.handle)

/-- Calling a tie changes the state of its handle. -/
def called (s : Ideal t) (x : Tie κ) : Ideal t :=
  { s with states := Function.update s.states x.handle (s.outcome x).2 }

/-- The one call that the handle of a tie receives. -/
def received (s : Ideal t) (x : Tie κ) : HandleCall κ :=
  ⟨x.handle, Workload.fixed.source, x.request, (s.outcome x).1⟩

/-- Registering a suite adds ties for the members that are registered. -/
def Registers (s : Ideal t) (members : List (Forwarder (Shelf t))) (registered : List BackendName)
    (u : Ideal t) : Prop :=
  ∃ ties, List.Forall₂ s.Ties (members.filter (·.descriptor.name ∈ registered)) ties ∧
    u = { s with suites := s.suites ++ [ties] }

/-- One step: what is done, what is told, and the calls that handles receive. -/
inductive Step (s : Ideal t) : Transaction t → Ideal t → Prop
  | insert (locator : String) (k : κ) :
    Step s ⟨.insert locator k, .answer .inserted, []⟩
      { s with table := Function.update s.table locator (some k) }
  | loaded {d : Forwarder (Shelf t)} {x : Tie κ} (h : s.Ties d x) :
    Step s ⟨.load d, .loaded d.descriptor.name, []⟩ { s with held := s.held ++ [x] }
  | failed (d : Forwarder (Shelf t)) (f : LoadFailure) : Step s ⟨.load d, .failed f, []⟩ s
  | registered {q : ForwarderSuite (Shelf t)} {g : Summary} {u : Ideal t}
      (h : s.Registers q.members g.registered u) :
    Step s ⟨.register q, .answer (.registered g), []⟩ u
  | defined {name : String} {ds : List (Forwarder (Shelf t))} {g : Summary} {u : Ideal t}
      (h : s.Registers ds g.registered u) :
    Step s ⟨.registerSuite name ds, .answer (.registered g), []⟩ u
  | rejected (name : String) (ds : List (Forwarder (Shelf t))) (r : Rejection) :
    Step s ⟨.registerSuite name ds, .answer (.rejected r), []⟩ s
  | called {i : ℕ} {x : Tie κ} (h : s.held[i]? = some x) :
    Step s ⟨.call i, .answer (.called (s.outcome x).1), [s.received x]⟩ (s.called x)
  | invoked {i j : ℕ} {x : Tie κ} (h : (s.suites[i]?.bind fun q => q[j]?) = some x) :
    Step s ⟨.invoke i j, .answer (.called (s.outcome x).1), [s.received x]⟩ (s.called x)
  | notHeld {i : ℕ} (h : s.held[i]? = none) : Step s ⟨.call i, .answer .absent, []⟩ s
  | notRecorded {i j : ℕ} (h : (s.suites[i]?.bind fun q => q[j]?) = none) :
    Step s ⟨.invoke i j, .answer .absent, []⟩ s
  | taken (qs : List (RecordedSuite (Shelf t))) :
    Step s ⟨.take, .answer (.taken qs), []⟩
      { s with held := s.held ++ s.suites.flatten, suites := [] }

/-- Several steps. -/
inductive Steps : Ideal t → List (Transaction t) → Ideal t → Prop
  | nil (s : Ideal t) : Steps s [] s
  | cons {s u v : Ideal t} {x : Transaction t} {xs : List (Transaction t)} (h : Step s x u)
      (hs : Steps u xs v) :
    Steps s (x :: xs) v

end Ideal

/-! ## Loads from a table -/

section Table

variable {τ : Type} {table : HandleTable τ} {l : Locator}

lemma HandleTable.resolver_some {a : Handle τ} (h : table.find? l.text = some a) (w : World τ) :
    table.resolver l w = (.done a, w) := by
  simp [resolver, h]

lemma HandleTable.resolver_none (h : table.find? l.text = none) (w : World τ) :
    table.resolver l w = (.failed (.notFound l), w) := by
  simp [resolver, h]

end Table

/-- Calling the backend is calling the handle of the tie with its arguments, on the workload. -/
def Tie.Obeyed (x : Tie κ) (b : LoadedBackend (Shelf t)) : Prop :=
  b.call = Shelf.handle t x.handle Workload.fixed.source x.request

/-- The handles of a table are those that the ideal program has in its table. -/
def Ideal.Tabulates (s : Ideal t) (table : HandleTable (Shelf t)) : Prop :=
  ∀ locator, table.find? locator = (s.table locator).map (Shelf.handle t)

namespace Workshop

variable {s : Ideal t} {table : HandleTable (Shelf t)}

/-- What is loaded obeys a tie to the handle that is in the table. -/
lemma exists_tie_of_load (ht : s.Tabulates table) {d : Forwarder (Shelf t)} {w : World (Shelf t)}
    {b : LoadedBackend (Shelf t)} (h : ((loader table).load d.descriptor w).1 = .ok b) :
    ∃ x, s.Ties d x ∧ x.Obeyed b := by
  obtain ⟨a, u, i, v, hr, ha, rfl⟩ := Loader.exists_of_load_ok h
  obtain ⟨args, hargs, hi⟩ := d.forwards.call ha
  have hf := ht d.descriptor.locator.text
  rcases hk : s.table d.descriptor.locator.text with _ | k
  · rw [hk] at hf
    cases hr.symm.trans (HandleTable.resolver_none hf _)
  · rw [hk] at hf
    cases hr.symm.trans (HandleTable.resolver_some hf _)
    refine ⟨⟨k, args⟩, ⟨hk, hargs⟩, ?_⟩
    rw [Tie.Obeyed, Invocation.bound, hi]
    rfl

omit [DecidableEq κ] in
/-- Loading a backend calls no handle. -/
lemma load_ambient (d : Forwarder (Shelf t)) (table : HandleTable (Shelf t))
    (w : World (Shelf t)) :
    ((loader table).load d.descriptor w).2.ambient = w.ambient := by
  rw [Loader.snd_load]
  rcases hf : table.find? d.descriptor.locator.text with _ | a
  · rw [Loader.attempt_failed (HandleTable.resolver_none hf _)]
  · rw [Loader.attempt_done (HandleTable.resolver_some hf _)]
    exact d.forwards.ambient a _

omit [DecidableEq κ] in
lemma loadAll_ambient (ds : List (Forwarder (Shelf t))) (table : HandleTable (Shelf t))
    (w : World (Shelf t)) :
    ((loader table).loadAll (ds.map Forwarder.descriptor) w).2.ambient = w.ambient := by
  induction ds generalizing w with
  | nil => rfl
  | cons d ds ih => rw [List.map_cons, Loader.loadAll, ih, load_ambient]

/-- The backends of several loads obey ties, those of the descriptors that were loaded. -/
lemma exists_ties_of_loadAll (ht : s.Tabulates table) {p : BackendName → Bool}
    {ds : List (Forwarder (Shelf t))} {w : World (Shelf t)}
    (hp : ∀ a ∈ ((loader table).loadAll (ds.map Forwarder.descriptor) w).1,
      p a.descriptor.name = a.succeeded) :
    ∃ ties, List.Forall₂ s.Ties (ds.filter fun d => p d.descriptor.name) ties ∧
      List.Forall₂ Tie.Obeyed ties
        (loaded ((loader table).loadAll (ds.map Forwarder.descriptor) w).1) := by
  induction ds generalizing w with
  | nil => exact ⟨[], .nil, .nil⟩
  | cons d ds ih =>
    rw [List.map_cons, Loader.loadAll] at hp ⊢
    obtain ⟨hd, hds⟩ := List.forall_mem_cons.1 hp
    obtain ⟨ties, hs, ho⟩ := ih hds
    rcases hl : ((loader table).load d.descriptor w).1 with f | b
    · rw [hl] at hd
      rw [List.filter_cons_of_neg (by simpa using hd)]
      exact ⟨ties, hs, ho⟩
    · rw [hl] at hd
      rw [List.filter_cons_of_pos (by simpa using hd)]
      obtain ⟨x, hx, hxb⟩ := exists_tie_of_load ht hl
      exact ⟨x :: ties, .cons hx hs, .cons hxb ho⟩

end Workshop

/-- Related lists have related items, or none, at each place. -/
lemma forall₂_getElem? {α β : Type} {R : α → β → Prop} {xs : List α} {ys : List β}
    (h : List.Forall₂ R xs ys) (i : ℕ) :
    (xs[i]? = none ∧ ys[i]? = none) ∨ ∃ x y, xs[i]? = some x ∧ ys[i]? = some y ∧ R x y := by
  induction h generalizing i with
  | nil => exact .inl ⟨rfl, rfl⟩
  | @cons x y xs ys hxy _ ih =>
    cases i with
    | zero => exact .inr ⟨x, y, rfl, rfl, hxy⟩
    | succ i => simpa using ih i

/-! ## The simulation -/

/-- The ideal program is in step with a real one: the tables hold the same handles, the backends
obey the ties, in the same places, and the handles have the same states. -/
structure Ideal.InStep (s : Ideal t) (r : Workshop t) : Prop where
  table : s.Tabulates r.session.table
  held : List.Forall₂ Tie.Obeyed s.held r.held
  suites : List.Forall₂ (fun ties q => List.Forall₂ Tie.Obeyed ties q.benchmarks) s.suites
    r.session.recorder.suites
  states : s.states = r.session.world.ambient.states

namespace Workshop

variable {s : Ideal t} {r : Workshop t}

/-- A deed is simulated by a step in which handles receive just the calls that they really do. -/
def Simulated (s : Ideal t) (r : Workshop t) (d : Deed t) : Prop :=
  ∃ cs u, Ideal.Step s ⟨d, (r.step d).1, cs⟩ u ∧ u.InStep (r.step d).2 ∧
    (r.step d).2.calls = r.calls ++ cs

lemma insert_simulated (h : s.InStep r) (locator : String) (k : κ) :
    Simulated s r (.insert locator k) := by
  refine ⟨[], _, .insert locator k, ⟨fun other => ?_, h.held, h.suites, h.states⟩,
    (List.append_nil _).symm⟩
  show (r.session.table.insert locator (Shelf.handle t k)).find? other =
    (Function.update s.table locator (some k) other).map (Shelf.handle t)
  rw [HandleTable.find?_insert, Function.update_apply, h.table other]
  split <;> rfl

lemma load_simulated (h : s.InStep r) (d : Forwarder (Shelf t)) : Simulated s r (.load d) := by
  have ha := load_ambient d r.session.table r.session.world
  rcases hl : (loader r.session.table).load d.descriptor r.session.world with ⟨f | b, w⟩
  · have he : r.step (.load d) = (.failed f, { r with session := { r.session with world := w } }) :=
      by rw [step, hl]
    rw [hl] at ha
    rw [Simulated, he]
    refine ⟨[], s, .failed d f, ⟨h.table, h.held, h.suites, ?_⟩, ?_⟩
    · rw [h.states, ← ha]
    · simp only [calls, ← ha, List.append_nil]
  · have he : r.step (.load d) =
        (.loaded b.name, ⟨{ r.session with world := w }, r.held ++ [b]⟩) := by rw [step, hl]
    obtain ⟨x, hx, hxb⟩ := exists_tie_of_load h.table (congrArg Prod.fst hl)
    rw [hl] at ha
    rw [Simulated, he, Loader.load_ok hl]
    refine ⟨[], _, .loaded hx, ⟨h.table, ?_, h.suites, ?_⟩, ?_⟩
    · exact List.rel_append h.held (.cons hxb .nil)
    · rw [h.states, ← ha]
    · simp only [calls, ← ha, List.append_nil]

/-- A registration adds a suite whose backends obey ties. -/
lemma operate_register (h : s.InStep r) {ds : List (Forwarder (Shelf t))} {q : Suite (Shelf t)}
    (hq : q.roster.descriptors = ds.map Forwarder.descriptor) :
    ∃ g u v, r.operate (.register q) = (.answer (.registered g), v) ∧
      s.Registers ds g.registered u ∧ u.InStep v ∧ v.calls = r.calls := by
  have hl : q.loads (loader r.session.table) r.session.world =
      ((loader r.session.table).loadAll (ds.map Forwarder.descriptor) r.session.world).1 := by
    rw [Suite.loads, hq]
  have hw := loadAll_ambient ds r.session.table r.session.world
  rw [← hq] at hw
  let registered (n : BackendName) : Bool :=
    n ∈ (loaded (q.loads (loader r.session.table) r.session.world)).map (·.name)
  have hp : ∀ a ∈ ((loader r.session.table).loadAll (ds.map Forwarder.descriptor)
      r.session.world).1, registered a.descriptor.name = a.succeeded := by
    rw [← hl]
    intro a ha
    rw [Bool.eq_iff_iff, decide_eq_true_iff]
    refine mem_map_name_loaded_iff (q.attributed_loads _ _) ?_ ha
    rw [q.map_descriptor_name_loads]
    exact q.roster.distinct
  obtain ⟨ties, hs, ho⟩ := exists_ties_of_loadAll h.table hp
  rw [← hl] at ho
  rw [operate, Session.step, q.register_recording]
  refine ⟨_, _, _, rfl, ⟨ties, hs, rfl⟩, ⟨h.table, h.held, ?_, ?_⟩, ?_⟩
  · exact List.rel_append h.suites (.cons ho .nil)
  · exact h.states.trans (congrArg Shelf.states hw.symm)
  · exact congrArg Shelf.calls hw

lemma register_simulated (h : s.InStep r) (q : ForwarderSuite (Shelf t)) :
    Simulated s r (.register q) := by
  have hq : q.suite.roster.descriptors = q.members.map Forwarder.descriptor := rfl
  obtain ⟨g, u, v, hv, hu, huv, hc⟩ := operate_register h hq
  rw [Simulated, step, hv]
  exact ⟨[], u, .registered hu, huv, by rw [hc, List.append_nil]⟩

lemma registerSuite_simulated (h : s.InStep r) (name : String)
    (ds : List (Forwarder (Shelf t))) : Simulated s r (.registerSuite name ds) := by
  rcases hq : Suite.ofList name (ds.map Forwarder.descriptor) with e | q
  · have he : r.step (.registerSuite name ds) = (.answer (.rejected e), r) := by
      simp [step, operate, Session.step, registerSuite, hq, Except.map]
    rw [Simulated, he]
    exact ⟨[], s, .rejected name ds e, h, (List.append_nil _).symm⟩
  · have he : r.step (.registerSuite name ds) = r.operate (.register q) := by
      simp [step, operate, Session.step, registerSuite, hq, Except.map]
    obtain ⟨g, u, v, hv, hu, huv, hc⟩ := operate_register h (Suite.ofList_eq_ok_iff.1 hq).2
    rw [Simulated, he, hv]
    exact ⟨[], u, .defined hu, huv, by rw [hc, List.append_nil]⟩

/-- Calling a backend that obeys a tie gives the outcome of the tie, and its handle receives one
call. -/
lemma call_obeyed (h : s.states = r.session.world.ambient.states) {x : Tie κ}
    {b : LoadedBackend (Shelf t)} (hb : x.Obeyed b) :
    ∃ w, b.call r.session.world = ((s.outcome x).1, w) ∧
      w.ambient.states = (s.called x).states ∧
      w.ambient.calls = r.calls ++ [s.received x] := by
  obtain ⟨table, held, suites, states⟩ := s
  cases h
  rw [hb]
  exact ⟨_, rfl, rfl, rfl⟩

lemma call_simulated (h : s.InStep r) (i : ℕ) : Simulated s r (.call i) := by
  rcases forall₂_getElem? h.held i with ⟨hx, hb⟩ | ⟨x, b, hx, hb, hxb⟩
  · have he : r.step (.call i) = (.answer .absent, r) := by rw [step, hb]
    rw [Simulated, he]
    exact ⟨[], s, .notHeld hx, h, (List.append_nil _).symm⟩
  · obtain ⟨w, hw, hs, hc⟩ := call_obeyed h.states hxb
    have he : r.step (.call i) = (.answer (.called (s.outcome x).1),
        { r with session := { r.session with world := w } }) := by simp only [step, hb, hw]
    rw [Simulated, he]
    exact ⟨[s.received x], s.called x, .called hx, ⟨h.table, h.held, h.suites, hs.symm⟩, hc⟩

/-- A backend that is looked up in a suite obeys the tie at that place. -/
lemma recorded_getElem? (h : s.InStep r) (i j : ℕ) :
    ((s.suites[i]?.bind fun ties => ties[j]?) = none ∧
      (r.session.recorder.suites[i]?.bind fun q => q.benchmarks[j]?) = none) ∨
    ∃ x b, (s.suites[i]?.bind fun ties => ties[j]?) = some x ∧
      (r.session.recorder.suites[i]?.bind fun q => q.benchmarks[j]?) = some b ∧ x.Obeyed b := by
  rcases forall₂_getElem? h.suites i with ⟨hs, hr⟩ | ⟨ties, q, hs, hr, hq⟩
  · rw [hs, hr]
    exact .inl ⟨rfl, rfl⟩
  · rw [hs, hr]
    exact forall₂_getElem? hq j

lemma invoke_simulated (h : s.InStep r) (i j : ℕ) : Simulated s r (.invoke i j) := by
  rcases recorded_getElem? h i j with ⟨hx, hb⟩ | ⟨x, b, hx, hb, hxb⟩
  · have he : r.step (.invoke i j) = (.answer .absent, r) := by
      simp only [step, operate, Session.step, hb]
    rw [Simulated, he]
    exact ⟨[], s, .notRecorded hx, h, (List.append_nil _).symm⟩
  · obtain ⟨w, hw, hs, hc⟩ := call_obeyed h.states hxb
    have he : r.step (.invoke i j) = (.answer (.called (s.outcome x).1),
        { r with session := { r.session with world := w } }) := by
      simp only [step, operate, Session.step, hb, hw]
    rw [Simulated, he]
    exact ⟨[s.received x], s.called x, .invoked hx, ⟨h.table, h.held, h.suites, hs.symm⟩, hc⟩

/-- The backends of all suites obey the ties of all suites. -/
lemma flatten_obeyed {ties : List (List (Tie κ))} {qs : List (RecordedSuite (Shelf t))}
    (h : List.Forall₂ (fun xs q => List.Forall₂ Tie.Obeyed xs q.benchmarks) ties qs) :
    List.Forall₂ Tie.Obeyed ties.flatten (qs.flatMap (·.benchmarks)) := by
  induction h with
  | nil => exact .nil
  | cons hq _ ih =>
    rw [List.flatten_cons, List.flatMap_cons]
    exact List.rel_append hq ih

lemma take_simulated (h : s.InStep r) : Simulated s r .take := by
  refine ⟨[], _, .taken r.session.recorder.suites, ⟨h.table, ?_, .nil, h.states⟩,
    (List.append_nil _).symm⟩
  exact List.rel_append h.held (flatten_obeyed h.suites)

/-- Every deed is simulated. -/
lemma simulated (h : s.InStep r) (d : Deed t) : Simulated s r d := by
  cases d with
  | insert locator k => exact insert_simulated h locator k
  | load d => exact load_simulated h d
  | register q => exact register_simulated h q
  | registerSuite name ds => exact registerSuite_simulated h name ds
  | call i => exact call_simulated h i
  | invoke i j => exact invoke_simulated h i j
  | take => exact take_simulated h

/-- One deed is one step of the ideal program. -/
lemma step_simulates (h : s.InStep r) (d : Deed t) :
    ∃ u, Ideal.Step s (r.transaction d) u ∧ u.InStep (r.step d).2 ∧
      (r.step d).2.calls = r.calls ++ (r.transaction d).received := by
  obtain ⟨cs, u, hs, hu, hc⟩ := simulated h d
  have ht : r.transaction d = ⟨d, (r.step d).1, cs⟩ := by
    rw [transaction, hc, List.drop_left]
  rw [ht]
  exact ⟨u, hs, hu, hc⟩

/-- A run is several steps. -/
lemma run_simulates (h : s.InStep r) (ds : List (Deed t)) :
    ∃ u, Ideal.Steps s (run ds r).1 u ∧ u.InStep (run ds r).2 ∧
      (run ds r).2.calls = r.calls ++ (run ds r).1.flatMap (·.received) := by
  induction ds generalizing s r with
  | nil => exact ⟨s, .nil s, h, (List.append_nil _).symm⟩
  | cons d ds ih =>
    obtain ⟨u, hs, hu, hc⟩ := step_simulates h d
    obtain ⟨v, hss, hv, he⟩ := ih hu
    refine ⟨v, .cons hs hss, hv, ?_⟩
    rw [run, he, hc, List.append_assoc, List.flatMap_cons]

lemma map_deed_run (ds : List (Deed t)) (r : Workshop t) :
    (run ds r).1.map Transaction.deed = ds := by
  induction ds generalizing r with
  | nil => rfl
  | cons d ds ih => rw [run, List.map_cons, ih]; rfl

end Workshop

/-! ## What the handles receive -/

/-- The calls of one handle. -/
def callsOf (k : κ) (cs : List (HandleCall κ)) : List (HandleCall κ) :=
  cs.filter fun c => c.handle = k

/-- The calls of a handle are consecutive calls: their outcomes, and the state that they leave, come
of calling it directly with the same sources and arguments. -/
def Consecutive (t : κ → Transformer) (k : κ) (cs : List (HandleCall κ)) (s u : (t k).State) :
    Prop :=
  (t k).calls ((callsOf k cs).map fun c => (c.source, c.args)) s =
    ((callsOf k cs).map (·.outcome), u)

lemma Consecutive.append {k : κ} {cs ds : List (HandleCall κ)} {s u v : (t k).State}
    (h : Consecutive t k cs s u) (hu : Consecutive t k ds u v) :
    Consecutive t k (cs ++ ds) s v := by
  rw [Consecutive, callsOf, List.filter_append, List.map_append, Transformer.calls_append,
    List.map_append]
  rw [Consecutive, callsOf] at h hu
  rw [h, hu]

namespace Ideal

variable {s u : Ideal t}

/-- Calling a tie is one call of its handle, and none of any other. -/
lemma consecutive_called (s : Ideal t) (x : Tie κ) (k : κ) :
    Consecutive t k [s.received x] (s.states k) ((s.called x).states k) := by
  rcases eq_or_ne k x.handle with rfl | hne
  · have hc : callsOf x.handle [s.received x] = [s.received x] :=
      List.filter_eq_self.2 (by simp [received])
    have hu : (s.called x).states x.handle = (s.outcome x).2 := Function.update_self ..
    rw [Consecutive, hc, hu]
    rfl
  · have hc : callsOf k [s.received x] = [] :=
      List.filter_eq_nil_iff.2 (by simp [received, hne.symm])
    have hu : (s.called x).states k = s.states k := Function.update_of_ne hne ..
    rw [Consecutive, hc, hu]
    rfl

/-- A step gives a handle one call in its present state, or none. -/
lemma Step.consecutive {x : Transaction t} (h : Step s x u) (k : κ) :
    Consecutive t k x.received (s.states k) (u.states k) := by
  cases h with
  | called hx => exact consecutive_called s _ k
  | invoked hx => exact consecutive_called s _ k
  | registered hu =>
    obtain ⟨ties, -, rfl⟩ := hu
    rfl
  | defined hu =>
    obtain ⟨ties, -, rfl⟩ := hu
    rfl
  | _ => rfl

lemma Steps.consecutive {xs : List (Transaction t)} (h : Steps s xs u) (k : κ) :
    Consecutive t k (xs.flatMap (·.received)) (s.states k) (u.states k) := by
  induction h with
  | nil s => rfl
  | cons h _ ih =>
    rw [List.flatMap_cons]
    exact (h.consecutive k).append ih

lemma Step.outcome {x : Transaction t} (h : Step s x u) :
    x.outcome?.toList = x.received.map (·.outcome) := by
  cases h <;> rfl

/-- What is observed are the outcomes of the calls that handles receive. -/
lemma Steps.outcomes {xs : List (Transaction t)} (h : Steps s xs u) :
    xs.filterMap Transaction.outcome? = (xs.flatMap (·.received)).map (·.outcome) := by
  induction h with
  | nil => rfl
  | cons h _ ih =>
    rw [List.flatMap_cons, List.map_append, ← h.outcome, ← ih]
    rw [List.filterMap_cons]
    split
    · rename_i hx
      rw [hx]
      rfl
    · rename_i hx
      rw [hx]
      rfl

end Ideal

namespace Workshop

/-- A workshop that has done nothing yet. -/
def start (w : World (Shelf t)) : Workshop t := ⟨{ world := w }, []⟩

/-- The ideal program that has done nothing yet. -/
def idealStart (w : World (Shelf t)) : Ideal t := ⟨fun _ => none, [], [], w.ambient.states⟩

/-- **Backends stay bound to their handles.**  Every run of a program that puts handles into a
table, loads and registers backends whose adapters forward, and calls them in any order, is a run of
the ideal program: a backend that is called passes the workload and its arguments, which are those
of the time of loading, to the handle that its locator stood for at that time, and passes back what
that gives; and no handle is called otherwise.  So, for each handle, the outcomes that are observed
through all backends that share it are those of as many consecutive direct calls. -/
theorem run_ideal (t : κ → Transformer) (ds : List (Deed t)) (w : World (Shelf t)) :
    ∃ h r u, run ds (start w) = (h, r) ∧ h.map Transaction.deed = ds ∧
      Ideal.Steps (idealStart w) h u ∧
      r.calls = w.ambient.calls ++ h.flatMap (·.received) ∧
      h.filterMap Transaction.outcome? = (h.flatMap (·.received)).map (·.outcome) ∧
      ∀ k, Consecutive t k (h.flatMap (·.received)) (w.ambient.states k)
        (r.session.world.ambient.states k) := by
  have hs : (idealStart w).InStep (start w) := ⟨fun _ => rfl, .nil, .nil, rfl⟩
  obtain ⟨u, hh, hu, hc⟩ := run_simulates hs ds
  refine ⟨_, _, u, rfl, map_deed_run ds _, hh, hc, hh.outcomes, fun k => ?_⟩
  rw [← hu.states]
  exact hh.consecutive k

/-- Two handles that count their calls. -/
def counters (_ : Bool) : Transformer :=
  ⟨ℕ, fun _ args n => (.done (args.map fun _ => n.toUInt8), n + 1)⟩

/-- A backend with one argument under the locator `counter`. -/
def counted : Forwarder (Shelf counters) :=
  { descriptor := ⟨⟨"counted", by decide⟩, ⟨"counter", by decide⟩, Adapter.forward _ ["x"]⟩,
    requests := (· = ["x"]), forwards := Adapter.forwards_forward ["x"] }

/-- A backend goes on calling the first handle when another one takes its place in the table. -/
example :
    ((run [.insert "counter" true, .load counted, .call 0, .insert "counter" false, .load counted,
      .call 1, .call 0] (start ⟨{}, .fresh, ⟨fun _ => (0 : ℕ), []⟩⟩)).1.flatMap (·.received)).map
        (fun c => (c.handle, c.outcome)) =
      [(true, .done [0]), (false, .done [0]), (true, .done [1])] := by
  rfl

end Workshop

end BenchRoster
