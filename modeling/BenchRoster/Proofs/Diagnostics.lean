/-
# Diagnostics and their lines

The diagnostic of a backend that cannot be loaded is put together from fixed words and from texts
that others have chosen: the locator, what the resolver or the adapter says of its failure, and what
a panic carries.  The fixed words and the names hold no line feed, and nothing is taken out of the
other texts.  So a diagnostic is one line where all of those are, and only there; a locator need not
be, for the rules of locators forbid blank texts and NULs but no line feeds.

* `LoadFailure.quoted` are the texts that a diagnostic quotes, and `LoadFailure.lineFeeds_message`
  counts its line feeds by them;
* `Loader.Fails` says where the cause of a failed load comes from;
* `Sweep.run_keeping` says what a sweep leaves in its sink;
* `Suite.register_diagnostics` is the main statement.
-/
import BenchRoster.Proofs.Sweep
import Mathlib.Algebra.GroupWithZero.Nat

namespace BenchRoster

/-! ## Line feeds -/

/-- The number of line feeds in a text. -/
def lineFeeds (s : String) : ℕ := s.toList.count '\n'

/-- A text that holds no line feed. -/
def OneLine (s : String) : Prop := lineFeeds s = 0

instance (s : String) : Decidable (OneLine s) := inferInstanceAs (Decidable (lineFeeds s = 0))

@[simp] lemma lineFeeds_append (s t : String) : lineFeeds (s ++ t) = lineFeeds s + lineFeeds t := by
  rw [lineFeeds, String.toList_append, List.count_append, lineFeeds, lineFeeds]

/-- No name holds a line feed. -/
@[simp] lemma BackendName.lineFeeds_text (n : BackendName) : lineFeeds n.text = 0 := by
  refine List.count_eq_zero.2 fun h => ?_
  have hc := (nameFault?_eq_none_iff.1 n.valid).2.2 _ h
  exact absurd hc (by decide)

/-- Some texts hold no line feeds together exactly when each is one line. -/
lemma sum_lineFeeds_eq_zero_iff {texts : List String} :
    (texts.map lineFeeds).sum = 0 ↔ ∀ s ∈ texts, OneLine s := by
  simp [List.sum_eq_zero_iff_forall_eq_nat, OneLine]

/-! ## The texts in a diagnostic -/

/-- The texts that the message of a cause quotes. -/
def LoadError.quoted : LoadError → List String
  | resolve (.notFound l) => [l.text]
  | resolve (.notExecutable path) => [path]
  | resolve (.lookup l reason) => [l.text, reason]
  | adapt (.prepare reason) => [reason]
  | adapt (.io context reason) => [context, reason]
  | panicked message => [message]

/-- The texts that a diagnostic quotes, but for the name of the backend. -/
def LoadFailure.quoted (f : LoadFailure) : List String := f.locator.text :: f.error.quoted

/-- The line feeds of a cause are those of the texts that it quotes: the words between them hold
none. -/
lemma LoadError.lineFeeds_message (e : LoadError) :
    lineFeeds e.message = (e.quoted.map lineFeeds).sum := by
  cases e with
  | resolve e =>
    cases e with
    | notFound l =>
      have h : (resolve (.notFound l)).message =
          "no backend found for locator '" ++ l.text ++ "'" := rfl
      have hw : lineFeeds "no backend found for locator '" = 0 ∧ lineFeeds "'" = 0 := by decide
      rw [h]
      simp [quoted, hw]
    | notExecutable path =>
      have h : (resolve (.notExecutable path)).message = path ++ " is not executable" := rfl
      have hw : lineFeeds " is not executable" = 0 := by decide
      rw [h]
      simp [quoted, hw]
    | lookup l reason =>
      have h : (resolve (.lookup l reason)).message =
          "lookup of '" ++ l.text ++ "' failed: " ++ reason := rfl
      have hw : lineFeeds "lookup of '" = 0 ∧ lineFeeds "' failed: " = 0 := by decide
      rw [h]
      simp [quoted, hw]
  | adapt e =>
    cases e with
    | prepare reason =>
      have h : (adapt (.prepare reason)).message =
          "failed to prepare backend options: " ++ reason := rfl
      have hw : lineFeeds "failed to prepare backend options: " = 0 := by decide
      rw [h]
      simp [quoted, hw]
    | io context reason =>
      have h : (adapt (.io context reason)).message =
          "IO error: " ++ context ++ " - " ++ reason := rfl
      have hw : lineFeeds "IO error: " = 0 ∧ lineFeeds " - " = 0 := by decide
      rw [h]
      simp [quoted, hw]
  | panicked message =>
    have h : (panicked message).message = "panicked while loading: " ++ message := rfl
    have hw : lineFeeds "panicked while loading: " = 0 := by decide
    rw [h]
    simp [quoted, hw]

namespace LoadFailure

/-- The line feeds of a diagnostic are those of the texts that it quotes. -/
lemma lineFeeds_message (f : LoadFailure) :
    lineFeeds f.message = (f.quoted.map lineFeeds).sum := by
  have h : f.message = "Cannot load " ++ f.locator.text ++ " for backend '" ++ f.backend.text ++
      "': " ++ f.error.message := rfl
  have hw : lineFeeds "Cannot load " = 0 ∧ lineFeeds " for backend '" = 0 ∧
      lineFeeds "': " = 0 := by decide
  rw [h]
  simp [quoted, hw, f.error.lineFeeds_message]

/-- A diagnostic is one line exactly when the texts that it quotes are. -/
lemma oneLine_message_iff {f : LoadFailure} : OneLine f.message ↔ ∀ s ∈ f.quoted, OneLine s := by
  rw [OneLine, lineFeeds_message, sum_lineFeeds_eq_zero_iff]

end LoadFailure

/-! ## Where the cause comes from -/

section Loads

variable {τ : Type}

/-- Why loading a descriptor fails when it begins in a world: the resolver or, with the handle that
was found, the adapter ends with an error or a panic. -/
inductive Loader.Fails (l : Loader τ) (d : Descriptor τ) (w : World τ) : LoadError → Prop
  | unresolved {e : ResolveError} (h : ∃ v, l.resolver d.locator w = (.failed e, v)) :
      Fails l d w (.resolve e)
  | resolverPanicked {p : Payload} (h : ∃ v, l.resolver d.locator w = (.panicked p, v)) :
      Fails l d w (.panicked p.message)
  | unadapted {e : AdaptError}
      (h : ∃ a u v, l.resolver d.locator w = (.done a, u) ∧ d.adapter a u = (.failed e, v)) :
      Fails l d w (.adapt e)
  | adapterPanicked {p : Payload}
      (h : ∃ a u v, l.resolver d.locator w = (.done a, u) ∧ d.adapter a u = (.panicked p, v)) :
      Fails l d w (.panicked p.message)

namespace Loader

/-- An attempt that does not make an invocation has a cause in the resolver or the adapter. -/
lemma fails_of_attempt {l : Loader τ} {d : Descriptor τ} {w : World τ} {e : LoadError}
    (h : cause (l.attempt d w).1 = .error e) : l.Fails d w e := by
  rcases hr : l.resolver d.locator w with ⟨a | f | p, u⟩
  · rw [attempt_done hr, Action.mapError] at h
    rcases ha : d.adapter a u with ⟨i | f | p, v⟩ <;> rw [ha] at h <;> cases h
    · exact .unadapted ⟨a, u, v, hr, ha⟩
    · exact .adapterPanicked ⟨a, u, v, hr, ha⟩
  · rw [attempt_failed hr] at h
    cases h
    exact .unresolved ⟨u, hr⟩
  · rw [attempt_panicked hr] at h
    cases h
    exact .resolverPanicked ⟨u, hr⟩

/-- A failure is about its descriptor, and has the cause of its attempt. -/
lemma fails_of_load {l : Loader τ} {d : Descriptor τ} {w v : World τ} {f : LoadFailure}
    (h : l.load d w = (.error f, v)) :
    f.backend = d.name ∧ f.locator = d.locator ∧
      l.Fails d { w with alarm := w.alarm.beginLoading } f.error := by
  refine ⟨(load_error h).1, (load_error h).2, fails_of_attempt ?_⟩
  rcases hc : cause (l.attempt d { w with alarm := w.alarm.beginLoading }).1 with e | i
  · have he := fst_load_error hc
    rw [h] at he
    cases he
    rfl
  · have hi := fst_load_ok hc
    rw [h] at hi
    cases hi

end Loader

end Loads

/-! ## What a sweep leaves in its sink -/

section Sinks

variable {τ ρ σ δ : Type}

/-- A sink that keeps something of each failure and does nothing else. -/
def Sink.keep (τ : Type) (f : LoadFailure → δ → δ) : Sink τ δ := fun x k w => (f x k, w)

/-- The console: each diagnostic is written after the ones before it, and ends its line. -/
def Sink.console (τ : Type) : Sink τ String := Sink.keep τ fun f out => out ++ f.message ++ "\n"

lemma Sink.lines_eq_keep (τ : Type) :
    Sink.lines τ = Sink.keep τ fun f ls => ls ++ [f.message] := rfl

namespace Sweep

/-- From one sweep to a later one some failures have been skipped, and each has been kept. -/
def Skipped (f : LoadFailure → δ → δ) (s t : Sweep σ δ) (fs : List LoadFailure) : Prop :=
  t.skipped = s.skipped ++ fs ∧ t.sink = fs.foldl (fun k x => f x k) s.sink

lemma Skipped.refl (f : LoadFailure → δ → δ) (s : Sweep σ δ) : Skipped f s s [] :=
  ⟨(List.append_nil _).symm, rfl⟩

lemma Skipped.trans {f : LoadFailure → δ → δ} {s t u : Sweep σ δ} {fs gs : List LoadFailure}
    (h : Skipped f s t fs) (k : Skipped f t u gs) : Skipped f s u (fs ++ gs) :=
  ⟨by rw [k.1, h.1, List.append_assoc], by rw [k.2, h.2, List.foldl_append]⟩

/-- One step skips the failure of its load, if there is one. -/
lemma step_keeping {rg : Registrar τ ρ σ} {l : Loader τ} {f : LoadFailure → δ → δ}
    {d : Descriptor τ} {s t : Sweep σ δ} {w v : World τ}
    (h : step rg l (Sink.keep τ f) d s w = (.ok t, v)) :
    ∃ fs, Skipped f s t fs ∧ ∀ x ∈ fs, ∃ u u', l.load d u = (.error x, u') := by
  obtain ⟨x, u, hl, rfl, -⟩ | ⟨b, u, scope, -, -, rfl⟩ := step_cases h
  · refine ⟨[x], ⟨rfl, rfl⟩, fun y hy => ?_⟩
    rw [List.mem_singleton.1 hy]
    exact ⟨w, u, hl⟩
  · exact ⟨[], Skipped.refl f s, by simp⟩

/-- A sweep that ends has kept each of the failures that it has skipped, and they are failures of
loads of its descriptors. -/
lemma run_keeping {rg : Registrar τ ρ σ} {l : Loader τ} {f : LoadFailure → δ → δ}
    {ds : List (Descriptor τ)} {s t : Sweep σ δ} {w v : World τ}
    (h : run rg l (Sink.keep τ f) ds s w = (.ok t, v)) :
    ∃ fs, Skipped f s t fs ∧ ∀ x ∈ fs, ∃ d ∈ ds, ∃ u u', l.load d u = (.error x, u') := by
  induction ds generalizing s w with
  | nil =>
    cases h
    exact ⟨[], Skipped.refl f _, by simp⟩
  | cons d ds ih =>
    obtain ⟨s', w', hs, h⟩ := run_cons_inv h
    obtain ⟨fs, hfs, hlf⟩ := step_keeping hs
    obtain ⟨gs, hgs, hlg⟩ := ih h
    refine ⟨fs ++ gs, hfs.trans hgs, fun x hx => ?_⟩
    rcases List.mem_append.1 hx with hx | hx
    · exact ⟨d, List.mem_cons_self, hlf x hx⟩
    · obtain ⟨e, he, hx⟩ := hlg x hx
      exact ⟨e, List.mem_cons_of_mem _ he, hx⟩

end Sweep

/-- What a registration that ends leaves in its sink. -/
lemma Suite.register_keeping {s : Suite τ} {rg : Registrar τ ρ σ} {l : Loader τ}
    {f : LoadFailure → δ → δ} {kept : ρ} {sink : δ} {w v : World τ} {g : Registration ρ δ}
    (h : s.register rg l (Sink.keep τ f) kept sink w = (.ok g, v)) :
    g.sink = g.summary.skipped.foldl (fun k x => f x k) sink ∧
      ∀ x ∈ g.summary.skipped, ∃ d ∈ s.roster.descriptors, ∃ u u',
        l.load d u = (.error x, u') := by
  rw [register] at h
  split at h
  · rename_i t u hr
    cases h
    obtain ⟨fs, hfs, hl⟩ := Sweep.run_keeping hr
    have hs : t.skipped = fs := hfs.1
    exact ⟨by rw [hs]; exact hfs.2, by rw [hs]; exact hl⟩
  · cases h

/-- Lines are added to the list in the order of the failures. -/
lemma foldl_lines (fs : List LoadFailure) (ls : List String) :
    fs.foldl (fun ls f => ls ++ [f.message]) ls = ls ++ fs.map (·.message) := by
  induction fs generalizing ls with
  | nil => simp
  | cons f fs ih => simp [ih]

/-- On the console each failure has the lines that its line feeds make of it, and one more. -/
lemma lineFeeds_foldl_console (fs : List LoadFailure) (out : String) :
    lineFeeds (fs.foldl (fun out f => out ++ f.message ++ "\n") out) =
      lineFeeds out + fs.length + (fs.map fun f => lineFeeds f.message).sum := by
  have hn : lineFeeds "\n" = 1 := by decide
  induction fs generalizing out with
  | nil => simp
  | cons f fs ih =>
    rw [List.foldl_cons, ih, lineFeeds_append, lineFeeds_append, hn, List.length_cons,
      List.map_cons, List.sum_cons]
    omega

/-- No failure has line feeds exactly when each has none. -/
lemma sum_lineFeeds_message_eq_zero_iff {fs : List LoadFailure} :
    (fs.map fun f => lineFeeds f.message).sum = 0 ↔ ∀ f ∈ fs, ∀ s ∈ f.quoted, OneLine s := by
  simp only [List.sum_eq_zero_iff_forall_eq_nat, List.forall_mem_map,
    ← LoadFailure.oneLine_message_iff]
  rfl

/-- **A diagnostic has the lines of the texts that it quotes.**  The line feeds of a diagnostic are
those of the locator and of the texts that the cause quotes; so it is one line exactly where all of
these are.  A failed load is about its descriptor, and its cause is the error or the panic of the
resolver or the adapter, of which nothing is changed.  With a registrar of any kind, a registration
that ends has given the console one line for each failure and one for each line feed in the texts
that were quoted, and so exactly one line for each failure where all of these texts are one line;
and a list of lines has one item for each failure in any case. -/
theorem Suite.register_diagnostics (s : Suite τ) (rg : Registrar τ ρ σ) (l : Loader τ) (kept : ρ)
    (w : World τ) :
    (∀ f : LoadFailure, lineFeeds f.message = (f.quoted.map lineFeeds).sum ∧
      (OneLine f.message ↔ OneLine f.locator.text ∧ ∀ t ∈ f.error.quoted, OneLine t)) ∧
    (∀ (d : Descriptor τ) (u v : World τ) (f : LoadFailure), l.load d u = (.error f, v) →
      f.backend = d.name ∧ f.locator = d.locator ∧
        l.Fails d { u with alarm := u.alarm.beginLoading } f.error) ∧
    (∀ (out : String) (g : Registration ρ String) (v : World τ),
      s.register rg l (Sink.console τ) kept out w = (.ok g, v) →
        (∀ f ∈ g.summary.skipped, ∃ d ∈ s.roster.descriptors, ∃ u u',
          l.load d u = (.error f, u')) ∧
        lineFeeds g.sink = lineFeeds out + g.summary.skipped.length +
          (g.summary.skipped.map fun f => (f.quoted.map lineFeeds).sum).sum ∧
        (lineFeeds g.sink = lineFeeds out + g.summary.skipped.length ↔
          ∀ f ∈ g.summary.skipped, OneLine f.locator.text ∧ ∀ t ∈ f.error.quoted, OneLine t)) ∧
    ∀ (ls : List String) (g : Registration ρ (List String)) (v : World τ),
      s.register rg l (Sink.lines τ) kept ls w = (.ok g, v) →
        g.sink = ls ++ g.summary.skipped.map (·.message) := by
  refine ⟨fun f => ⟨f.lineFeeds_message, ?_⟩, fun d u v f h => Loader.fails_of_load h,
    fun out g v h => ?_, fun ls g v h => ?_⟩
  · rw [LoadFailure.oneLine_message_iff, LoadFailure.quoted, List.forall_mem_cons]
  · obtain ⟨hg, hl⟩ := register_keeping h
    have hc : lineFeeds g.sink = lineFeeds out + g.summary.skipped.length +
        (g.summary.skipped.map fun f => lineFeeds f.message).sum := by
      rw [hg, lineFeeds_foldl_console]
    refine ⟨hl, ?_, ?_⟩
    · simpa only [LoadFailure.lineFeeds_message] using hc
    · have hq : ∀ f : LoadFailure, (OneLine f.locator.text ∧ ∀ t ∈ f.error.quoted, OneLine t) ↔
          ∀ t ∈ f.quoted, OneLine t := fun f => by rw [LoadFailure.quoted, List.forall_mem_cons]
      simp only [hq, ← sum_lineFeeds_message_eq_zero_iff]
      omega
  · rw [Sink.lines_eq_keep] at h
    rw [(register_keeping h).1, foldl_lines]

end Sinks

/-! ## A locator on two lines -/

namespace TwoLines

/-- A locator with a line feed, which no rule forbids. -/
def locator : Locator := ⟨"missing\nlib", by decide⟩

/-- A backend that is not there, and one whose adapter panics with a text of three lines. -/
def suite : Suite Unit :=
  { name := ⟨"lines", by decide⟩
    roster :=
      { descriptors :=
          [{ name := ⟨"beta", by decide⟩, locator, adapter := Adapter.forward Unit [] },
           { name := ⟨"gamma", by decide⟩, locator := ⟨"checker", by decide⟩,
             adapter := fun _ => .panic (.formatted "assertion failed\n  left: 1\n right: 2") }]
        distinct := by decide } }

/-- A loader that finds the second of them. -/
def loader : Loader Unit :=
  { resolver := HandleTable.resolver ⟨[("checker", fun source _ => .pure (Text.utf8 source))]⟩ }

/-- A world in which nothing has happened. -/
def world : World Unit := { machine := Machine.fresh, ambient := () }

end TwoLines

open TwoLines in
/-- The two failures come to six lines: the first names its locator twice. -/
theorem Suite.register_diagnostics_twoLines :
    ∃ g v, suite.register (Recorder.registrar Unit) loader (Sink.console Unit) {} "" world =
        (.ok g, v) ∧
      g.summary.skipped.map (fun f => f.quoted.map lineFeeds) = [[1, 1], [0, 2]] ∧
      lineFeeds g.sink = 6 := by
  obtain ⟨g, v, h, hq⟩ : ∃ g v,
      suite.register (Recorder.registrar Unit) loader (Sink.console Unit) {} "" world =
        (.ok g, v) ∧
      g.summary.skipped.map (fun f => f.quoted.map lineFeeds) = [[1, 1], [0, 2]] :=
    ⟨_, _, rfl, by decide⟩
  have hl := ((register_diagnostics suite (Recorder.registrar Unit) loader {} world).2.2.1
    "" g v h).2.1
  have hn : g.summary.skipped.length = 2 := by simpa using congrArg List.length hq
  have hs : (g.summary.skipped.map fun f => (f.quoted.map lineFeeds).sum) = [2, 2] := by
    simpa [Function.comp_def] using congrArg (List.map List.sum) hq
  refine ⟨g, v, h, hq, ?_⟩
  rw [hl, hn, hs]
  decide

open TwoLines in
/-- So the diagnostic of a failed load need not be one line. -/
theorem Loader.not_oneLine_of_load :
    ¬∀ (l : Loader Unit) (d : Descriptor Unit) (w v : World Unit) (f : LoadFailure),
      l.load d w = (.error f, v) → OneLine f.message := by
  intro h
  have hf : ¬OneLine (LoadFailure.mk ⟨"beta", by decide⟩ locator
      (.resolve (.notFound locator))).message := by decide
  refine hf (h { resolver := HandleTable.resolver {} }
    { name := ⟨"beta", by decide⟩, locator, adapter := Adapter.forward Unit [] } world _ _ rfl)

end BenchRoster
