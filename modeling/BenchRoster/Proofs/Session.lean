/-
# Sessions with one recorder

A program may use one recorder for as long as it likes: it registers suites that it has kept, checks
and registers definitions, puts handles into the table of its loader, calls recorded backends, and
takes the recorded suites out.  What the recorder holds at any time follows from what the program
has been told: it is the list of the registrations that were accepted since the suites were last
taken out.

* `Session.step` is one operation, `Session.run` a run of them with its history;
* `accepted` are the accepted registrations of a history since the suites were last taken out;
* `Session.run_recorder` says what the recorder holds after a run.
-/
import BenchRoster.Proofs.Sweep
import Mathlib.Algebra.GroupWithZero.Nat
import Mathlib.Data.List.DropRight

namespace BenchRoster

/-- What a program does. -/
inductive Operation (τ : Type) where
  /-- Registers a suite that was made before. -/
  | register (suite : Suite τ)
  /-- Checks a definition and registers it. -/
  | registerSuite (name : String) (ds : List (Descriptor τ))
  /-- Puts a handle into the table. -/
  | insert (locator : String) (handle : Handle τ)
  /-- Calls a recorded backend, by its place and that of its suite. -/
  | invoke (suite backend : ℕ)
  /-- Takes the recorded suites out. -/
  | take

/-- What it is told. -/
inductive Answer (τ : Type) where
  | registered (summary : Summary)
  | rejected (r : Rejection)
  | panicked (p : Payload)
  | inserted
  | called (outcome : Outcome TransformError Bytes)
  /-- There is no such backend. -/
  | absent
  | taken (suites : List (RecordedSuite τ))

/-- An operation with the answer to it. -/
structure Exchange (τ : Type) where
  operation : Operation τ
  answer : Answer τ

namespace Exchange

variable {τ : Type}

/-- The recorded suites were taken out. -/
def isTake (e : Exchange τ) : Bool :=
  match e.operation with
  | .take => true
  | _ => false

/-- A registration that was accepted: the name that was given for the suite, and the names of the
registered backends. -/
def accepted? (e : Exchange τ) : Option (String × List BackendName) :=
  match e.operation, e.answer with
  | .register s, .registered g => some (s.name.text, g.registered)
  | .registerSuite name _, .registered g => some (name, g.registered)
  | _, _ => none

/-- A suite that is registered is answered by its summary, and a definition as well, unless it is
rejected. -/
def Answered (e : Exchange τ) : Prop :=
  match e.operation with
  | .register s => ∃ g, e.answer = .registered g ∧ g.suite = s.name
  | .registerSuite name ds =>
    match Suite.ofList name ds with
    | .ok s => ∃ g, e.answer = .registered g ∧ g.suite = s.name
    | .error r => e.answer = .rejected r
  | _ => True

end Exchange

/-- The accepted registrations since the recorded suites were last taken out. -/
def accepted {τ : Type} (h : List (Exchange τ)) : List (String × List BackendName) :=
  (h.rtakeWhile (!·.isTake)).filterMap Exchange.accepted?

/-- What a program works with. -/
structure Session (τ : Type) where
  recorder : Recorder τ := {}
  table : HandleTable τ := {}
  lines : List String := []
  world : World τ

namespace Session

variable {τ : Type}

/-- What is left of a registration, and what is told of it. -/
def ended (s : Session τ) :
    Except Payload (Registration (Recorder τ) (List String)) × World τ → Answer τ × Session τ
  | (.ok g, w) =>
    (.registered g.summary, { s with recorder := g.kept, lines := g.sink, world := w })
  | (.error p, w) => (.panicked p, { s with world := w })

/-- One operation; loaders are made of the table. -/
def step (loader : HandleTable τ → Loader τ) (s : Session τ) : Operation τ → Answer τ × Session τ
  | .register t =>
    s.ended (t.register (Recorder.registrar τ) (loader s.table) (Sink.lines τ) s.recorder s.lines
      s.world)
  | .registerSuite name ds =>
    match BenchRoster.registerSuite (Recorder.registrar τ) name ds (loader s.table) (Sink.lines τ)
      s.recorder s.lines s.world with
    | .ok x => s.ended x
    | .error r => (.rejected r, s)
  | .insert locator h => (.inserted, { s with table := s.table.insert locator h })
  | .invoke i k =>
    match s.recorder.suites[i]?.bind fun q => q.benchmarks[k]? with
    | some b => (.called (b.call s.world).1, { s with world := (b.call s.world).2 })
    | none => (.absent, s)
  | .take => (.taken s.recorder.take.1, { s with recorder := s.recorder.take.2 })

/-- A run of operations: its history, and the session afterwards. -/
def run (loader : HandleTable τ → Loader τ) :
    List (Operation τ) → Session τ → List (Exchange τ) × Session τ
  | [], s => ([], s)
  | o :: os, s =>
    (⟨o, (s.step loader o).1⟩ :: (run loader os (s.step loader o).2).1,
      (run loader os (s.step loader o).2).2)

/-- The history has an exchange for each operation. -/
lemma map_operation_run (loader : HandleTable τ → Loader τ) (os : List (Operation τ))
    (s : Session τ) : (run loader os s).1.map Exchange.operation = os := by
  induction os generalizing s with
  | nil => rfl
  | cons o os ih => rw [run, List.map_cons, ih]

lemma run_concat (loader : HandleTable τ → Loader τ) (os : List (Operation τ)) (o : Operation τ)
    (s : Session τ) :
    run loader (os ++ [o]) s =
      ((run loader os s).1 ++ [⟨o, ((run loader os s).2.step loader o).1⟩],
        ((run loader os s).2.step loader o).2) := by
  induction os generalizing s with
  | nil => rfl
  | cons p os ih => rw [List.cons_append, run, ih, run, List.cons_append]

end Session

/-! ## Histories -/

section Histories

variable {τ : Type}

/-- Taking the suites out begins anew. -/
lemma accepted_concat_take (h : List (Exchange τ)) {e : Exchange τ} (he : e.isTake = true) :
    accepted (h ++ [e]) = [] := by
  rw [accepted, List.rtakeWhile_concat_neg _ _ _ (by simp [he]), List.filterMap_nil]

/-- Any other exchange adds what was accepted in it. -/
lemma accepted_concat (h : List (Exchange τ)) {e : Exchange τ} (he : e.isTake = false) :
    accepted (h ++ [e]) = accepted h ++ e.accepted?.toList := by
  rw [accepted, List.rtakeWhile_concat_pos _ _ _ (by simp [he]), List.filterMap_append, accepted]
  rcases hx : e.accepted? with _ | x
  · simp [hx]
  · simp [hx]

end Histories

/-! ## The recorder -/

namespace Recorder

variable {τ : Type}

/-- The recorder holds what was accepted in a history, and the names in each suite differ. -/
structure Tracks (r : Recorder τ) (h : List (Exchange τ)) : Prop where
  suites : r.suites.map (fun q => (q.name.text, q.names)) = accepted h
  nodup : ∀ q ∈ r.suites, q.names.Nodup

lemma tracks_nil : Tracks ({} : Recorder τ) [] := ⟨rfl, by simp⟩

/-- A take leaves nothing, and begins anew. -/
lemma tracks_take (h : List (Exchange τ)) {e : Exchange τ} (he : e.isTake = true) :
    Tracks ({} : Recorder τ) (h ++ [e]) :=
  ⟨(accepted_concat_take h he).symm, by simp⟩

/-- An exchange in which nothing is accepted leaves the recorder as it is. -/
lemma Tracks.keep {r : Recorder τ} {h : List (Exchange τ)} (hr : r.Tracks h) {e : Exchange τ}
    (he : e.isTake = false) (ha : e.accepted? = none) : r.Tracks (h ++ [e]) where
  suites := by rw [hr.suites, accepted_concat h he, ha, Option.toList_none, List.append_nil]
  nodup := hr.nodup

/-- What is accepted comes to the end. -/
lemma Tracks.append {r : Recorder τ} {h : List (Exchange τ)} (hr : r.Tracks h) {e : Exchange τ}
    {q : RecordedSuite τ} (he : e.isTake = false) (ha : e.accepted? = some (q.name.text, q.names))
    (hq : q.names.Nodup) : Tracks ⟨r.suites ++ [q]⟩ (h ++ [e]) where
  suites := by
    rw [List.map_append, hr.suites, accepted_concat h he, ha, Option.toList_some,
      List.map_singleton]
  nodup := by
    intro p hp
    rcases List.mem_append.1 hp with hp | hp
    · exact hr.nodup p hp
    · rw [List.mem_singleton.1 hp]
      exact hq

/-- The count is the sum of the numbers of names. -/
lemma count_eq_sum (r : Recorder τ) : r.count = (r.suites.map (·.names.length)).sum := by
  rw [count, List.length_flatMap]
  simp [RecordedSuite.names]

/-- A suite that is found is the earliest of its name. -/
lemma suite?_eq_some_iff {r : Recorder τ} {n : String} {q : RecordedSuite τ} :
    r.suite? n = some q ↔
      ∃ before after, r.suites = before ++ q :: after ∧ q.name.text = n ∧
        ∀ p ∈ before, p.name.text ≠ n := by
  rw [suite?, List.find?_eq_some_iff_append]
  constructor
  · rintro ⟨hn, before, after, he, hb⟩
    exact ⟨before, after, he, by simpa using hn, fun p hp => by simpa using hb p hp⟩
  · rintro ⟨before, after, he, hn, hb⟩
    exact ⟨by simpa using hn, before, after, he, fun p hp => by simpa using hb p hp⟩

lemma suite?_eq_none_iff {r : Recorder τ} {n : String} :
    r.suite? n = none ↔ ∀ q ∈ r.suites, q.name.text ≠ n := by
  rw [suite?, List.find?_eq_none]
  simp

end Recorder

namespace Suite

variable {τ : Type}

/-- A registration adds one suite to the recorder: that of the registered backends. -/
lemma register_recorded (t : Suite τ) (l : Loader τ) (r : Recorder τ) (ls : List String)
    (w : World τ) :
    ∃ g v q, t.register (Recorder.registrar τ) l (Sink.lines τ) r ls w = (.ok g, v) ∧
      g.kept = ⟨r.suites ++ [q]⟩ ∧ g.summary.suite = t.name ∧ q.name = t.name ∧
      q.names = g.summary.registered ∧ q.names.Nodup :=
  ⟨_, _, _, t.register_recording l r ls w, rfl, rfl, rfl, rfl, t.nodup_loaded l w⟩

/-- A suite that is made of a definition bears its name, and has its descriptors. -/
lemma ofList_eq_ok_iff {name : String} {ds : List (Descriptor τ)} {t : Suite τ} :
    ofList name ds = .ok t ↔ t.name.text = name ∧ t.roster.descriptors = ds := by
  constructor
  · intro h
    rcases hn : SuiteName.ofString name with r | n
    · rw [ofList, hn] at h
      cases h
    · rcases hr : Roster.ofList ds with r | ro
      · rw [ofList, hn, hr] at h
        cases h
      · rw [ofList, hn, hr] at h
        cases h
        exact ⟨SuiteName.ofString_eq_ok_iff.1 hn, Roster.ofList_eq_ok_iff.1 hr⟩
  · rintro ⟨hn, hd⟩
    rw [ofList, SuiteName.ofString_eq_ok_iff.2 hn, Roster.ofList_eq_ok_iff.2 hd]
    rfl

end Suite

/-! ## Runs -/

namespace Session

variable {τ : Type}

/-- One operation keeps the recorder in step with the history. -/
lemma step_tracks (loader : HandleTable τ → Loader τ) {s : Session τ} {h : List (Exchange τ)}
    (hs : s.recorder.Tracks h) (o : Operation τ) :
    (s.step loader o).2.recorder.Tracks (h ++ [⟨o, (s.step loader o).1⟩]) ∧
      Exchange.Answered ⟨o, (s.step loader o).1⟩ := by
  cases o with
  | register t =>
    obtain ⟨g, v, q, hg, hk, hgn, hqn, hqs, hq⟩ :=
      t.register_recorded (loader s.table) s.recorder s.lines s.world
    rw [step, hg, ended]
    refine ⟨?_, g.summary, rfl, hgn⟩
    rw [hk]
    exact hs.append rfl (by rw [hqn, hqs]; rfl) hq
  | registerSuite name ds =>
    rcases ht : Suite.ofList name ds with r | t
    · have he : s.step loader (.registerSuite name ds) = (.rejected r, s) := by
        simp [step, registerSuite, ht, Except.map]
      rw [he]
      refine ⟨hs.keep rfl rfl, ?_⟩
      simp [Exchange.Answered, ht]
    · obtain ⟨g, v, q, hg, hk, hgn, hqn, hqs, hq⟩ :=
        t.register_recorded (loader s.table) s.recorder s.lines s.world
      have he : s.step loader (.registerSuite name ds) =
          (.registered g.summary, { s with recorder := g.kept, lines := g.sink, world := v }) := by
        simp [step, registerSuite, ht, Except.map, hg, ended]
      rw [he]
      constructor
      · rw [hk]
        refine hs.append rfl ?_ hq
        rw [hqn, hqs, (Suite.ofList_eq_ok_iff.1 ht).1]
        rfl
      · simp [Exchange.Answered, ht, hgn]
  | insert locator h => exact ⟨hs.keep rfl rfl, trivial⟩
  | invoke i k =>
    rw [step]
    split
    · exact ⟨hs.keep rfl rfl, trivial⟩
    · exact ⟨hs.keep rfl rfl, trivial⟩
  | take => exact ⟨Recorder.tracks_take h rfl, trivial⟩

/-- A run that begins with an empty recorder keeps it in step with its history. -/
lemma run_tracks (loader : HandleTable τ → Loader τ) (os : List (Operation τ)) (s : Session τ) :
    (run loader os { s with recorder := {} }).2.recorder.Tracks
        (run loader os { s with recorder := {} }).1 ∧
      ∀ e ∈ (run loader os { s with recorder := {} }).1, e.Answered := by
  induction os using List.reverseRecOn with
  | nil => exact ⟨Recorder.tracks_nil, by simp [run]⟩
  | append_singleton os o ih =>
    obtain ⟨ht, ha⟩ := step_tracks loader ih.1 o
    rw [run_concat]
    refine ⟨ht, fun e he => ?_⟩
    rcases List.mem_append.1 he with he | he
    · exact ih.2 e he
    · rw [List.mem_singleton.1 he]
      exact ha

/-- **The recorder holds the accepted registrations.**  After any run that begins with an empty
recorder, the recorded suites are the registrations that were accepted since the suites were last
taken out, in their order, each with its name and the names that its summary lists; the count is
the sum of the lengths of these lists; a suite that is looked up is the earliest of its name, and
there is none exactly when no such registration used the name; and the names in each suite are
valid and differ. -/
theorem run_recorder (loader : HandleTable τ → Loader τ) (os : List (Operation τ))
    (s : Session τ) :
    ∃ h t, run loader os { s with recorder := {} } = (h, t) ∧
      h.map Exchange.operation = os ∧ (∀ e ∈ h, e.Answered) ∧
      t.recorder.suites.map (fun q => (q.name.text, q.names)) = accepted h ∧
      t.recorder.count = ((accepted h).map (·.2.length)).sum ∧
      (∀ n q, t.recorder.suite? n = some q ↔
        ∃ before after, t.recorder.suites = before ++ q :: after ∧ q.name.text = n ∧
          ∀ p ∈ before, p.name.text ≠ n) ∧
      (∀ n, t.recorder.suite? n = none ↔ ∀ a ∈ accepted h, a.1 ≠ n) ∧
      ∀ q ∈ t.recorder.suites,
        q.names.Nodup ∧ ∀ n ∈ q.names, nameFault? n.text = none := by
  obtain ⟨ht, ha⟩ := run_tracks loader os s
  refine ⟨_, _, rfl, map_operation_run loader os _, ha, ht.suites, ?_,
    fun n q => Recorder.suite?_eq_some_iff, fun n => ?_,
    fun q hq => ⟨ht.nodup q hq, fun n _ => n.valid⟩⟩
  · rw [Recorder.count_eq_sum, ← ht.suites, List.map_map]
    rfl
  · rw [Recorder.suite?_eq_none_iff, ← ht.suites]
    simp

end Session

end BenchRoster
