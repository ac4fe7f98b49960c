/-
# The trace of a sweep

Resolvers at the leaves of a tree of chains may note that they are tried, a registrar that a backend
is declared to it, and a sink that a failure is reported.  Their notes go into one journal, and this
file says what a sweep adds to it: one block of events for each descriptor, in the order of
declaration.

* `Loader.tried` are the leaves that a search tries, `Loader.block` the events of one descriptor;
* `Loader.events_load` gives the notes of one load: nothing but the attempts of its search;
* `Suite.register_trace` says that the notes of a registration are the blocks of its descriptors.
-/
import BenchRoster.Proofs.Search
import BenchRoster.Proofs.Sweep
import Mathlib.Data.List.Basic

namespace BenchRoster

/-- What can be told of a sweep from outside. -/
inductive SweepEvent (ι : Type) where
  /-- The leaf with this mark was tried on a locator. -/
  | attempt (mark : ι) (locator : Locator)
  | declared (backend : BackendName)
  | reported (backend : BackendName)
deriving DecidableEq

namespace SweepEvent

variable {ι : Type}

/-- The backend that was declared. -/
def declared? : SweepEvent ι → Option BackendName
  | declared n => some n
  | _ => none

/-- The backend of which a failure was reported. -/
def reported? : SweepEvent ι → Option BackendName
  | reported n => some n
  | _ => none

/-- The backend that is done with: it was declared, or its failure was reported. -/
def closed? : SweepEvent ι → Option BackendName
  | attempt _ _ => none
  | declared n => some n
  | reported n => some n

end SweepEvent

/-- What a program keeps, and the events that were noted. -/
structure Journal (ι τ : Type) where
  events : List (SweepEvent ι) := []
  rest : τ

namespace World

variable {ι τ : Type}

def events (w : World (Journal ι τ)) : List (SweepEvent ι) := w.ambient.events

/-- Notes an event. -/
def note (w : World (Journal ι τ)) (e : SweepEvent ι) : World (Journal ι τ) :=
  { w with ambient := { w.ambient with events := w.ambient.events ++ [e] } }

@[simp] lemma events_note (w : World (Journal ι τ)) (e : SweepEvent ι) :
    (w.note e).events = w.events ++ [e] := rfl

@[simp] lemma events_alarm (w : World (Journal ι τ)) (a : Alarm) :
    ({ w with alarm := a } : World (Journal ι τ)).events = w.events := rfl

end World

/-- The action notes nothing. -/
def Action.Silent {ι τ ε α : Type} (x : Action (Journal ι τ) ε α) : Prop :=
  ∀ w, (x w).2.events = w.events

/-- A resolver with a mark, under which its attempts are noted. -/
structure MarkedResolver (ι τ : Type) where
  mark : ι
  find : Resolver (Journal ι τ)
  silent : ∀ l, (find l).Silent

/-- Notes the attempt, and then looks for a handle. -/
def MarkedResolver.resolver {ι τ : Type} (m : MarkedResolver ι τ) : Resolver (Journal ι τ) :=
  fun l w => m.find l (w.note (.attempt m.mark l))

/-- A registrar that notes each declaration, and keeps the backend in a way of its own. -/
def Registrar.noting {ι τ ρ σ : Type} (openSuite : SuiteName → ρ → σ)
    (keep : LoadedBackend (Journal ι τ) → σ → σ) (closeSuite : σ → ρ → ρ) :
    Registrar (Journal ι τ) ρ σ where
  openSuite := openSuite
  declare b x w := (.ok (keep b x), w.note (.declared b.name))
  closeSuite := closeSuite

/-- A sink that notes each report, and keeps the failure in a way of its own. -/
def Sink.noting {ι τ δ : Type} (keep : LoadFailure → δ → δ) : Sink (Journal ι τ) δ :=
  fun f x w => (keep f x, w.note (.reported f.backend))

namespace Loader

variable {ι τ : Type}

/-- The leaves that a search on a locator tries: they come one after the other, up to and with the
first that finds a handle or panics, and all of them if none does. -/
def tried (l : Locator) :
    List (MarkedResolver ι τ) → World (Journal ι τ) → List (MarkedResolver ι τ)
  | [], _ => []
  | m :: ms, w =>
    match m.resolver l w with
    | (.failed _, v) => m :: tried l ms v
    | (.done _, _) => [m]
    | (.panicked _, _) => [m]

/-- The attempts of a search on a locator. -/
def attempts (l : Locator) (ms : List (MarkedResolver ι τ)) (w : World (Journal ι τ)) :
    List (SweepEvent ι) :=
  (tried l ms w).map fun m => .attempt m.mark l

/-- The event that closes a descriptor: its declaration if it was loaded, and else the report. -/
def closing (l : Loader (Journal ι τ)) (d : Descriptor (Journal ι τ)) (w : World (Journal ι τ)) :
    SweepEvent ι :=
  if (l.load d w).1.isOk then .declared d.name else .reported d.name

/-- The events of one descriptor: the attempts on its locator, and what closes it. -/
def block (l : Loader (Journal ι τ)) (ms : List (MarkedResolver ι τ))
    (d : Descriptor (Journal ι τ)) (w : World (Journal ι τ)) : List (SweepEvent ι) :=
  attempts d.locator ms { w with alarm := w.alarm.beginLoading } ++ [l.closing d w]

/-- The blocks of some descriptors, each in the world that the ones before it have left. -/
def blocks (l : Loader (Journal ι τ)) (ms : List (MarkedResolver ι τ)) :
    List (Descriptor (Journal ι τ)) → World (Journal ι τ) → List (List (SweepEvent ι))
  | [], _ => []
  | d :: ds, w => l.block ms d w :: blocks l ms ds ((l.load d w).2.note (l.closing d w))

lemma closing_ok {l : Loader (Journal ι τ)} {d : Descriptor (Journal ι τ)}
    {w v : World (Journal ι τ)} {b : LoadedBackend (Journal ι τ)} (h : l.load d w = (.ok b, v)) :
    l.closing d w = .declared d.name := by
  simp [closing, h, Except.isOk, Except.toBool]

lemma closing_error {l : Loader (Journal ι τ)} {d : Descriptor (Journal ι τ)}
    {w v : World (Journal ι τ)} {f : LoadFailure} (h : l.load d w = (.error f, v)) :
    l.closing d w = .reported d.name := by
  simp [closing, h, Except.isOk, Except.toBool]

/-! ## The notes of one load -/

/-- A search notes its attempts. -/
lemma events_search (l : Locator) (ms : List (MarkedResolver ι τ)) (w : World (Journal ι τ)) :
    (Resolver.search l (ms.map MarkedResolver.resolver) w).2.events =
      w.events ++ attempts l ms w := by
  induction ms generalizing w with
  | nil => simp [Resolver.search, attempts, tried]
  | cons m ms ih =>
    have hm : (m.resolver l w).2.events = w.events ++ [.attempt m.mark l] :=
      m.silent l (w.note (.attempt m.mark l))
    rw [List.map_cons, Resolver.search, attempts, tried]
    rcases h : m.resolver l w with ⟨a | e | p, v⟩
    · rw [h] at hm
      rw [Action.orElse_done (Action.forgetError_done h)]
      simpa using hm
    · rw [h] at hm
      have hv : v.events = w.events ++ [.attempt m.mark l] := hm
      rw [Action.orElse_failed (Action.forgetError_failed h), ih, hv]
      simp [attempts]
    · rw [h] at hm
      rw [Action.orElse_panicked (Action.forgetError_panicked h)]
      simpa using hm

/-- An adapter that is silent adds nothing to the notes of the resolver. -/
lemma events_attempt (l : Loader (Journal ι τ)) {d : Descriptor (Journal ι τ)}
    (hd : ∀ h, (d.adapter h).Silent) (w : World (Journal ι τ)) :
    (l.attempt d w).2.events = (l.resolver d.locator w).2.events := by
  rcases h : l.resolver d.locator w with ⟨a | e | p, v⟩
  · rw [attempt_done h]
    exact hd a v
  · rw [attempt_failed h]
  · rw [attempt_panicked h]

/-- A load notes the attempts of its search through the leaves, and nothing else. -/
lemma events_load {t : ResolverTree (Journal ι τ)} {ms : List (MarkedResolver ι τ)}
    (ht : t.leaves = ms.map MarkedResolver.resolver) {l : Loader (Journal ι τ)}
    (hl : l.resolver = t.resolver) {d : Descriptor (Journal ι τ)}
    (hd : ∀ h, (d.adapter h).Silent) (w : World (Journal ι τ)) :
    (l.load d w).2.events =
      w.events ++ attempts d.locator ms { w with alarm := w.alarm.beginLoading } := by
  have hs := t.forgetError_resolver d.locator
  rw [ht] at hs
  have he := events_search d.locator ms { w with alarm := w.alarm.beginLoading }
  rw [← hs] at he
  rw [snd_load, World.events_alarm, events_attempt l hd, hl]
  exact he

end Loader

/-! ## The closing events -/

namespace Loader

variable {ι τ : Type}

/-- What leaves attempts out of account sees only the closing event of a block. -/
lemma filterMap_block {β : Type} {f : SweepEvent ι → Option β}
    (hf : ∀ m l, f (.attempt m l) = none) (l : Loader (Journal ι τ))
    (ms : List (MarkedResolver ι τ)) (d : Descriptor (Journal ι τ)) (w : World (Journal ι τ)) :
    (l.block ms d w).filterMap f = [l.closing d w].filterMap f := by
  have ha : (attempts d.locator ms { w with alarm := w.alarm.beginLoading }).filterMap f = [] := by
    simp [attempts, hf]
  rw [block, List.filterMap_append, ha, List.nil_append]

/-- A block has one closing event, which is that of its descriptor. -/
lemma closed_block (l : Loader (Journal ι τ)) (ms : List (MarkedResolver ι τ))
    (d : Descriptor (Journal ι τ)) (w : World (Journal ι τ)) :
    (l.block ms d w).filterMap SweepEvent.closed? = [d.name] := by
  rw [filterMap_block fun _ _ => rfl]
  rcases h : l.load d w with ⟨f | b, v⟩
  · rw [closing_error h]
    rfl
  · rw [closing_ok h]
    rfl

/-- The closing events of some blocks are those of their descriptors, in the same order. -/
lemma closed_blocks (l : Loader (Journal ι τ)) (ms : List (MarkedResolver ι τ))
    (ds : List (Descriptor (Journal ι τ))) (w : World (Journal ι τ)) :
    (l.blocks ms ds w).flatten.filterMap SweepEvent.closed? = ds.map (·.name) := by
  induction ds generalizing w with
  | nil => rfl
  | cons d ds ih =>
    rw [blocks, List.flatten_cons, List.filterMap_append, closed_block, ih]
    rfl

end Loader

/-! ## The whole sweep -/

section Noting

variable {ι τ ρ σ δ : Type} {t : ResolverTree (Journal ι τ)} {ms : List (MarkedResolver ι τ)}
  {l : Loader (Journal ι τ)} (openSuite : SuiteName → ρ → σ)
  (keep : LoadedBackend (Journal ι τ) → σ → σ) (closeSuite : σ → ρ → ρ)
  (keepFailure : LoadFailure → δ → δ)

/-- A sweep has gone on by some blocks of events, which also tell its summary. -/
structure Sweep.Noted (s u : Sweep σ δ) (w v : World (Journal ι τ))
    (es : List (SweepEvent ι)) : Prop where
  events : v.events = w.events ++ es
  registered : u.registered = s.registered ++ es.filterMap SweepEvent.declared?
  skipped : u.skipped.map (·.backend) =
    s.skipped.map (·.backend) ++ es.filterMap SweepEvent.reported?

namespace Sweep

lemma Noted.refl (s : Sweep σ δ) (w : World (Journal ι τ)) : Noted s s w w [] :=
  ⟨by simp, by simp, by simp⟩

lemma Noted.trans {s u y : Sweep σ δ} {w v x : World (Journal ι τ)}
    {es fs : List (SweepEvent ι)} (h : Noted s u w v es) (k : Noted u y v x fs) :
    Noted s y w x (es ++ fs) where
  events := by rw [k.events, h.events, List.append_assoc]
  registered := by rw [k.registered, h.registered, List.filterMap_append, List.append_assoc]
  skipped := by rw [k.skipped, h.skipped, List.filterMap_append, List.append_assoc]

/-- One step adds the block of its descriptor. -/
lemma step_noting (ht : t.leaves = ms.map MarkedResolver.resolver)
    (hl : l.resolver = t.resolver) {d : Descriptor (Journal ι τ)}
    (hd : ∀ h, (d.adapter h).Silent) (s : Sweep σ δ) (w : World (Journal ι τ)) :
    ∃ u, step (Registrar.noting openSuite keep closeSuite) l (Sink.noting keepFailure) d s w =
        (.ok u, (l.load d w).2.note (l.closing d w)) ∧
      Noted s u w ((l.load d w).2.note (l.closing d w)) (l.block ms d w) := by
  have he := Loader.events_load ht hl hd w
  rcases h : l.load d w with ⟨f | b, v⟩
  · have hb : f.backend = d.name := (Loader.load_error h).1
    have hc : l.closing d w = .reported f.backend := hb ▸ Loader.closing_error h
    rw [h] at he
    refine ⟨{ s with skipped := s.skipped ++ [f], sink := keepFailure f s.sink },
      (step_error h).trans (by rw [hc]; rfl), ⟨?_, ?_, ?_⟩⟩
    · rw [Loader.block, World.events_note, ← List.append_assoc, ← he]
    · rw [Loader.filterMap_block fun _ _ => rfl, hc]
      exact (List.append_nil _).symm
    · rw [Loader.filterMap_block fun _ _ => rfl, hc]
      exact List.map_append
  · have hb : b.name = d.name := Loader.load_ok h
    have hc : l.closing d w = .declared b.name := hb ▸ Loader.closing_ok h
    rw [h] at he
    refine ⟨{ s with scope := keep b s.scope, registered := s.registered ++ [b.name] },
      (step_ok h rfl).trans (by rw [hc]), ⟨?_, ?_, ?_⟩⟩
    · rw [Loader.block, World.events_note, ← List.append_assoc, ← he]
    · rw [Loader.filterMap_block fun _ _ => rfl, hc]
      rfl
    · rw [Loader.filterMap_block fun _ _ => rfl, hc]
      exact (List.append_nil _).symm

/-- A sweep adds the blocks of its descriptors. -/
lemma run_noting (ht : t.leaves = ms.map MarkedResolver.resolver)
    (hl : l.resolver = t.resolver) {ds : List (Descriptor (Journal ι τ))}
    (hd : ∀ d ∈ ds, ∀ h, (d.adapter h).Silent) (s : Sweep σ δ) (w : World (Journal ι τ)) :
    ∃ u v, run (Registrar.noting openSuite keep closeSuite) l (Sink.noting keepFailure) ds s w =
        (.ok u, v) ∧
      Noted s u w v (l.blocks ms ds w).flatten := by
  induction ds generalizing s w with
  | nil => exact ⟨s, w, run_nil .., Noted.refl s w⟩
  | cons d ds ih =>
    obtain ⟨hd, hds⟩ := List.forall_mem_cons.1 hd
    obtain ⟨u, hu, hn⟩ := step_noting openSuite keep closeSuite keepFailure ht hl hd s w
    obtain ⟨y, x, hy, hx⟩ := ih hds u ((l.load d w).2.note (l.closing d w))
    exact ⟨y, x, (run_cons_ok hu).trans hy, hn.trans hx⟩

end Sweep

/-- **The trace of a registration.**  Let the leaves of a tree of chains note their attempts, and
let the adapters resolve nothing themselves.  Then a registration adds to the journal one block for
each descriptor, in the order of declaration: the attempts on its locator, from leaf to leaf as far
as `Loader.tried` goes, and then the one event that closes it.  The closing events name the roster
in its order; the declarations among them are the registered names, the reports the skipped ones. -/
theorem Suite.register_trace (ht : t.leaves = ms.map MarkedResolver.resolver)
    (workload : Workload) (s : Suite (Journal ι τ))
    (hs : ∀ d ∈ s.roster.descriptors, ∀ h, (d.adapter h).Silent) (kept : ρ) (sink : δ)
    (w : World (Journal ι τ)) :
    ∃ g v es,
      s.register (Registrar.noting openSuite keep closeSuite) ⟨t.resolver, workload⟩
        (Sink.noting keepFailure) kept sink w = (.ok g, v) ∧
      v.events = w.events ++ es ∧
      es = (Loader.blocks ⟨t.resolver, workload⟩ ms s.roster.descriptors w).flatten ∧
      es.filterMap SweepEvent.closed? = s.roster.names ∧
      es.filterMap SweepEvent.declared? = g.summary.registered ∧
      es.filterMap SweepEvent.reported? = g.summary.skipped.map (·.backend) := by
  obtain ⟨u, v, hu, hn⟩ := Sweep.run_noting (l := ⟨t.resolver, workload⟩) openSuite keep closeSuite
    keepFailure ht rfl hs { scope := openSuite s.name kept, sink } w
  refine ⟨⟨⟨s.name, u.registered, u.skipped⟩, closeSuite u.scope kept, u.sink⟩, v, _, ?_,
    hn.events, rfl, Loader.closed_blocks _ ms _ w, ?_, ?_⟩
  · rw [register, show (Registrar.noting openSuite keep closeSuite).openSuite = openSuite from rfl,
      hu]
    rfl
  · simpa using hn.registered.symm
  · simpa using hn.skipped.symm

end Noting

/-! ## A nested chain -/

namespace Action

variable {ι τ ε α : Type}

lemma silent_pure (a : α) : (pure a : Action (Journal ι τ) ε α).Silent := fun _ => rfl

lemma silent_fail (e : ε) : (fail e : Action (Journal ι τ) ε α).Silent := fun _ => rfl

lemma silent_panic (p : Payload) : (panic p : Action (Journal ι τ) ε α).Silent := fun _ => rfl

end Action

lemma HandleTable.silent_resolver {ι τ : Type} (t : HandleTable (Journal ι τ)) (l : Locator) :
    (t.resolver l).Silent := by
  unfold resolver
  split
  · exact Action.silent_pure _
  · exact Action.silent_fail _

namespace NestedChain

def first : Locator := ⟨"first", by decide +kernel⟩
def second : Locator := ⟨"second", by decide +kernel⟩
def third : Locator := ⟨"third", by decide +kernel⟩

def a : BackendName := ⟨"a", by decide +kernel⟩
def b : BackendName := ⟨"b", by decide +kernel⟩
def c : BackendName := ⟨"c", by decide +kernel⟩
def d : BackendName := ⟨"d", by decide +kernel⟩

/-- Three leaves: two tables with one handle each, and a resolver that panics. -/
def leaves : List (MarkedResolver ℕ Unit) :=
  [⟨0, HandleTable.resolver ⟨[(first.text, fun _ _ => .pure [])]⟩, HandleTable.silent_resolver _⟩,
    ⟨1, HandleTable.resolver ⟨[(second.text, fun _ _ => .pure [])]⟩,
      HandleTable.silent_resolver _⟩,
    ⟨2, fun _ => .panic (.fixed "broken"), fun _ => Action.silent_panic _⟩]

/-- The first leaf, a chain without members, and a chain of the other two. -/
def tree : ResolverTree (Journal ℕ Unit) :=
  let rs := leaves.map MarkedResolver.resolver
  .chain ((rs.take 1).map .leaf ++ [.chain [], .chain ((rs.drop 1).map .leaf)])

/-- Four backends: found by the first leaf, by none, by the second leaf, and found but not
adapted. -/
def suite : Suite (Journal ℕ Unit) where
  name := ⟨"nested", by decide +kernel⟩
  roster :=
    { descriptors :=
        [⟨a, first, Adapter.forward _ []⟩, ⟨b, third, Adapter.forward _ []⟩,
          ⟨c, second, Adapter.forward _ []⟩, ⟨d, first, fun _ => .fail (.prepare "no presets")⟩]
      distinct := by decide +kernel }

/-- A machine without files, and an empty journal. -/
def world : World (Journal ℕ Unit) := { machine := .fresh, ambient := { rest := () } }

lemma leaves_tree : tree.leaves = leaves.map MarkedResolver.resolver := rfl

lemma silent_adapters : ∀ d ∈ suite.roster.descriptors, ∀ h, (d.adapter h).Silent := by
  simp only [suite, List.forall_mem_cons, List.not_mem_nil, false_implies, implies_true, and_true]
  exact ⟨fun _ => Action.silent_pure _, fun _ => Action.silent_pure _,
    fun _ => Action.silent_pure _, fun _ => Action.silent_fail _⟩

end NestedChain

open NestedChain in
theorem Suite.register_trace_nested :
    tree.leaves = leaves.map MarkedResolver.resolver ∧
      (∀ d ∈ suite.roster.descriptors, ∀ h, (d.adapter h).Silent) ∧
      ∃ g v,
        suite.register
            (Registrar.noting (fun n (_ : Recorder _) => { name := n })
              (fun b (q : RecordedSuite _) => { q with benchmarks := q.benchmarks ++ [b] })
              (fun q r => ⟨r.suites ++ [q]⟩))
            ⟨tree.resolver, Workload.fixed⟩ (Sink.noting fun f ls => ls ++ [f.message]) {} []
            world = (.ok g, v) ∧
          v.events =
            [.attempt 0 first, .declared a,
              .attempt 0 third, .attempt 1 third, .attempt 2 third, .reported b,
              .attempt 0 second, .attempt 1 second, .declared c,
              .attempt 0 first, .reported d] := by
  obtain ⟨g, v, es, hg, hv, hes, -⟩ :=
    Suite.register_trace (fun n (_ : Recorder _) => { name := n })
      (fun b (q : RecordedSuite _) => { q with benchmarks := q.benchmarks ++ [b] })
      (fun q r => ⟨r.suites ++ [q]⟩) (fun f ls => ls ++ [f.message]) leaves_tree Workload.fixed
      suite silent_adapters {} [] world
  refine ⟨leaves_tree, silent_adapters, g, v, hg, ?_⟩
  rw [hv, hes]
  rfl

end BenchRoster
