/-
# The totals of a timed run

A timed run ends with two numbers.  Both are those of its registration: how many backends were
loaded, and how many were not.  Which of the loaded ones were run is up to the filter, which acts
inside the timer and has no part in the numbers.

* `Sweep.loads` are the loads of a sweep with any registrar, and `Sweep.run_accounts` what the
  sweep keeps of them;
* `Sweep.timed_of_run` gives the backends that a sweep with a timer has run;
* `CommandLine.run_totals` compares what a timed run prints with what it has run.
-/
import BenchRoster.CommandLine
import BenchRoster.Proofs.TimedConfig
import Mathlib

namespace BenchRoster

/-! ## The loads of a sweep -/

namespace Sweep

section

variable {τ ρ σ δ : Type} {rg : Registrar τ ρ σ} {l : Loader τ} {report : Sink τ δ}

/-- The loads of a sweep: each begins in the world in which the registrar has left the one before
it, and nothing is loaded after a panic. -/
def loads (rg : Registrar τ ρ σ) (l : Loader τ) (report : Sink τ δ) :
    List (Descriptor τ) → Sweep σ δ → World τ → List (Load τ)
  | [], _, _ => []
  | d :: ds, s, w =>
    ⟨d, (l.load d w).1⟩ ::
      match step rg l report d s w with
      | (.ok t, v) => loads rg l report ds t v
      | (.error _, _) => []

lemma loads_cons_ok {d : Descriptor τ} {ds : List (Descriptor τ)} {s t : Sweep σ δ} {w v : World τ}
    (h : step rg l report d s w = (.ok t, v)) :
    loads rg l report (d :: ds) s w = ⟨d, (l.load d w).1⟩ :: loads rg l report ds t v := by
  rw [loads, h]

lemma attributed_loads (ds : List (Descriptor τ)) (s : Sweep σ δ) (w : World τ) :
    ∀ a ∈ loads rg l report ds s w, a.Attributed := by
  induction ds generalizing s w with
  | nil => simp [loads]
  | cons d ds ih =>
    rw [loads]
    refine List.forall_mem_cons.2 ⟨l.attributed_load d w, ?_⟩
    split
    · exact ih _ _
    · simp

/-- **What a sweep keeps of its loads.**  A sweep that ends has loaded every descriptor, in their
order; the names of those that were loaded are registered, and the failures of the others are
skipped, whatever the registrar does with a backend. -/
lemma run_accounts {ds : List (Descriptor τ)} {s t : Sweep σ δ} {w v : World τ}
    (h : run rg l report ds s w = (.ok t, v)) :
    (loads rg l report ds s w).map Load.descriptor = ds ∧
      t.registered = s.registered ++ (loaded (loads rg l report ds s w)).map (·.name) ∧
      t.skipped = s.skipped ++ failures (loads rg l report ds s w) := by
  induction ds generalizing s w with
  | nil =>
    cases h
    simp [loads]
  | cons d ds ih =>
    obtain ⟨s', w', hs, h⟩ := run_cons_inv h
    obtain ⟨hd, hr, hk⟩ := ih h
    obtain ⟨hr', hk'⟩ := step_accounts hs
    rw [loads_cons_ok hs]
    refine ⟨by rw [List.map_cons, hd], ?_, ?_⟩
    · rw [hr, hr', loaded_cons _ (loads rg l report ds s' w'), List.map_append, List.append_assoc]
    · rw [hk, hk', failures_cons _ (loads rg l report ds s' w'), List.append_assoc]

end

/-! ## The backends that a timer has run -/

section

variable {τ : Type} {selects : String → Bool} {pace : BackendName → World τ → ℕ} {l : Loader τ}

/-- The names of the backends that are selected. -/
def chosen (selects : String → Bool) (suite : SuiteName) (bs : List (LoadedBackend τ)) :
    List BackendName :=
  (bs.map (·.name)).filter fun n => selects (Timer.identifier suite n)

lemma chosen_append (suite : SuiteName) (bs cs : List (LoadedBackend τ)) :
    chosen selects suite (bs ++ cs) = chosen selects suite bs ++ chosen selects suite cs := by
  rw [chosen, List.map_append, List.filter_append, chosen, chosen]

/-- Unless it panics, a timer runs the backend that is declared to it if that is selected. -/
lemma timed_of_declare {b : LoadedBackend τ} {s t : TimedSuite} {w v : World τ}
    (h : (Timer.paced τ selects pace).declare b s w = (.ok t, v)) :
    t = { s with timed := s.timed ++ chosen selects s.name [b] } := by
  rcases hs : selects (Timer.identifier s.name b.name) with _ | _
  · rw [Timer.declare_unselected hs] at h
    cases h
    simp [chosen, hs]
  · rcases hc : Timer.calls b (pace b.name w + 1) w with ⟨p | ⟨⟩, u⟩
    · rw [Timer.declare_error hs hc] at h
      cases h
    · rw [Timer.declare_ok hs hc] at h
      cases h
      simp [chosen, hs]

lemma timed_of_step {d : Descriptor τ} {s t : Sweep TimedSuite (List String)} {w v : World τ}
    (h : step (Timer.paced τ selects pace) l (Sink.lines τ) d s w = (.ok t, v)) :
    t.scope = { s.scope with
      timed := s.scope.timed ++ chosen selects s.scope.name (loaded [⟨d, (l.load d w).1⟩]) } := by
  obtain ⟨f, u, hl, rfl, -⟩ | ⟨b, u, scope, hl, hd, rfl⟩ := step_cases h
  · rw [hl]
    simp [chosen]
  · rw [hl]
    exact timed_of_declare hd

/-- A sweep with a timer that ends has run the selected ones of the backends that were loaded. -/
lemma timed_of_run {ds : List (Descriptor τ)} {s t : Sweep TimedSuite (List String)}
    {w v : World τ} (h : run (Timer.paced τ selects pace) l (Sink.lines τ) ds s w = (.ok t, v)) :
    t.scope = { s.scope with
      timed := s.scope.timed ++ chosen selects s.scope.name
        (loaded (loads (Timer.paced τ selects pace) l (Sink.lines τ) ds s w)) } := by
  induction ds generalizing s w with
  | nil =>
    cases h
    simp [loads, chosen]
  | cons d ds ih =>
    obtain ⟨s', w', hs, h⟩ := run_cons_inv h
    rw [loads_cons_ok hs, ih h, timed_of_step hs, loaded_cons _ (loads _ l _ ds s' w'),
      chosen_append, List.append_assoc]

end

end Sweep

/-! ## Registrations with a timer -/

variable {τ : Type}

/-- What a timer has kept of a registration that has ended, by its loads: the summary is that of
the loads, and the backends that were run are the selected ones of the registered. -/
structure Accounts (selects : String → Bool) (as : List (Load τ))
    (g : Registration (List TimedSuite) (List String)) : Prop where
  registered : g.summary.registered = (as.filter Load.succeeded).map (·.descriptor.name)
  skipped : g.summary.skipped = failures as
  kept : g.kept = [⟨g.summary.suite, g.summary.registered.filter fun n =>
    selects (Timer.identifier g.summary.suite n)⟩]

/-- There are as many failures as loads that did not succeed. -/
lemma length_failures (as : List (Load τ)) :
    (failures as).length = as.countP (!·.succeeded) := by
  induction as with
  | nil => rfl
  | cons a as ih =>
    obtain ⟨d, f | b⟩ := a
    · rw [failures_error, List.length_cons, ih, List.countP_cons_of_pos (by simp)]
    · rw [failures_ok, ih, List.countP_cons_of_neg (by simp)]

/-- The loads of timing a configuration. -/
def Config.timedLoads (c : Config) (selects : String → Bool) (w : World τ) : List (Load τ) :=
  Sweep.loads (Timer.registrar τ (c.timer selects)) (c.loader τ) (Sink.lines τ)
    (c.descriptors τ) (Timer.begun c.suite) w

/-- Timing a suite keeps the accounts of its loads. -/
lemma Suite.accounts_of_register {s : Suite τ} {selects : String → Bool}
    {pace : BackendName → World τ → ℕ} {l : Loader τ} {w v : World τ}
    {g : Registration (List TimedSuite) (List String)}
    (h : s.register (Timer.paced τ selects pace) l (Sink.lines τ) [] [] w = (.ok g, v)) :
    let as := Sweep.loads (Timer.paced τ selects pace) l (Sink.lines τ) s.roster.descriptors
      (Timer.begun s.name) w
    as.map Load.descriptor = s.roster.descriptors ∧ g.summary.suite = s.name ∧
      Accounts selects as g := by
  intro as
  rw [register_paced] at h
  rcases hr : Sweep.run (Timer.paced τ selects pace) l (Sink.lines τ) s.roster.descriptors
    (Timer.begun s.name) w with ⟨p | t, u⟩
  · rw [hr] at h
    cases h
  · rw [hr] at h
    cases h
    obtain ⟨hd, hreg, hskip⟩ := Sweep.run_accounts hr
    have hn : (loaded as).map (·.name) = (as.filter Load.succeeded).map (·.descriptor.name) :=
      map_name_loaded (Sweep.attributed_loads _ _ _)
    refine ⟨hd, rfl, ⟨hreg.trans hn, hskip, ?_⟩⟩
    dsimp only
    rw [Sweep.timed_of_run hr, hreg]
    rfl

/-- And so does timing a configuration. -/
lemma Config.accounts_of_timeConfigured {c : Config} {selects : String → Bool} {w v : World τ}
    {g : Registration (List TimedSuite) (List String)}
    (h : timeConfigured c selects w = .ok (.ok g, v)) :
    (c.timedLoads selects w).map Load.descriptor = c.descriptors τ ∧
      g.summary.suite = c.suite ∧ Accounts selects (c.timedLoads selects w) g := by
  rcases hr : c.roster τ with e | r
  · rw [timeConfigured, suiteOf, hr] at h
    cases h
  · rw [timeConfigured, suiteOf, hr] at h
    have hd : r.descriptors = c.descriptors τ := Roster.ofList_eq_ok_iff.1 hr
    have h : (⟨c.suite, r⟩ : Suite τ).register
        (Timer.paced τ selects fun _ _ => c.timing.sampleSize) (c.loader τ) (Sink.lines τ) [] [] w =
      (.ok g, v) := Except.ok.inj h
    have ha := Suite.accounts_of_register h
    dsimp only at ha
    rw [hd] at ha
    exact ha

/-! ## What is printed -/

namespace CommandLine

/-- The last lines of a timed run, by their numbers. -/
def totals (timed skipped : ℕ) : String :=
  text ["", s!"{timed} backend(s) timed, {skipped} skipped"]

lemma text_runTotals (s : Summary) :
    text (runTotals s) = totals s.registered.length s.skipped.length := rfl

/-- No two numbers are written alike. -/
lemma decimal_injective {m n : ℕ} (h : toString m = toString n) : m = n := by
  rw [Nat.toString_eq_ofList_toDigits, Nat.toString_eq_ofList_toDigits] at h
  have hd := congrArg (Nat.ofDigitChars 10 · 0) (String.ofList_injective h)
  rwa [Nat.ofDigitChars_ten_toDigits, Nat.ofDigitChars_ten_toDigits] at hd

/-- The first number can be read off the last lines. -/
lemma totals_inj {m n k : ℕ} : totals m k = totals n k ↔ m = n := by
  refine ⟨fun h => ?_, fun h => by rw [h]⟩
  have ht := congrArg String.toList h
  simp only [totals, text, String.join, List.map_cons, List.map_nil, List.foldl_cons,
    List.foldl_nil, String.toList_append, List.append_cancel_right_eq,
    List.append_cancel_left_eq] at ht
  exact decimal_injective (String.toList_injective ht)

/-- The configuration that is timed: a quick run samples as little as possible. -/
def timedConfig (c : Config) (quick : Bool) : Config :=
  if quick then { c with timing := .quick } else c

lemma run_eq {τ : Type} {w : World τ} {path filter : Option String} {selects : String → Bool}
    {c : Config} (hs : selector filter = .ok selects) (hc : Config.find w.machine path = .ok c)
    (quick : Bool) :
    run w path filter quick =
      match timeConfigured (timedConfig c quick) selects w with
      | .error r => definitionFailure (.rejected r)
      | .ok (.ok r, _) => ⟨0, text (runTotals r.summary), text r.sink⟩
      | .ok (.error _, _) => { exit := panicExit } := by
  rcases ht : timeConfigured (timedConfig c quick) selects w with r | ⟨r | r, v⟩ <;>
    (rw [timedConfig] at ht; simp only [run, withConfig, hs, hc, ht])

/-- A run that completes has read its filter and its configuration and has registered the suite,
and it prints the totals of the registration. -/
lemma run_completed {τ : Type} {w : World τ} {path filter : Option String} {quick : Bool}
    (h : (run w path filter quick).exit = 0) :
    ∃ selects c g v, selector filter = .ok selects ∧ Config.find w.machine path = .ok c ∧
      timeConfigured (timedConfig c quick) selects w = .ok (.ok g, v) ∧
      (run w path filter quick).output =
        totals g.summary.registered.length g.summary.skipped.length := by
  rcases hs : selector filter with e | selects
  · simp [run, hs] at h
  rcases hc : Config.find w.machine path with e | c
  · simp [run, withConfig, definitionFailure, hs, hc] at h
  rw [run_eq hs hc] at h ⊢
  rcases ht : timeConfigured (timedConfig c quick) selects w with r | ⟨p | g, v⟩
  · rw [ht] at h
    cases h
  · rw [ht] at h
    cases h
  · exact ⟨selects, c, g, v, rfl, rfl, ht, text_runTotals g.summary⟩

/-- A filter is a condition; without one everything is selected. -/
lemma selector_none {selects : String → Bool} (h : selector none = .ok selects) (i : String) :
    selects i = true := by
  cases h
  rfl

/-- A configuration with three backends: one that can be called, one that cannot be loaded, and one
whose calls fail. -/
def assorted : String :=
  "resolver: \x7bsearch_paths: []\x7d\n" ++
    "backends: [\x7bname: x, locator: echo, args: [--größe]\x7d, " ++
    "\x7bname: gone, locator: missing\x7d, " ++
    "\x7bname: y, locator: /usr/bin/../bin/false\x7d]\n"

/-- A machine with this configuration. -/
def assortedWorld : World Unit where
  machine := { Machine.fresh with
    files := Machine.fresh.files.put ["tmp", "work", "c.yaml"] (.file 0o644 (Text.utf8 assorted)) }
  ambient := ()

def assortedX : BackendName := ⟨"x", by decide⟩
def assortedGone : BackendName := ⟨"gone", by decide⟩
def assortedY : BackendName := ⟨"y", by decide⟩

def assortedConfig : Config where
  suite := defaultSuite
  timing := .default
  searchPaths := []
  backends := [⟨assortedX, ⟨"echo", by decide⟩, ["--größe"], none, defaultFlag⟩,
    ⟨assortedGone, ⟨"missing", by decide⟩, [], none, defaultFlag⟩,
    ⟨assortedY, ⟨"/usr/bin/../bin/false", by decide⟩, [], none, defaultFlag⟩]

lemma find_assorted : Config.find assortedWorld.machine (some "c.yaml") = .ok assortedConfig := by
  decide +kernel

/-- What contains an `x`. -/
def withX : Pattern := .oneOf (.range 'x' 'x')

lemma selector_x : selector (some "x") = .ok withX.matchesIn := by
  have h : Pattern.ofString "x" = .ok withX := by cbv
  rw [selector, h]

/-- It selects the first of the two that can be loaded. -/
lemma filter_x : [assortedX, assortedY].filter
    (fun n => withX.matchesIn (Timer.identifier defaultSuite n)) = [assortedX] := by
  decide +kernel

/-- The backend whose calls fail is not called, so the run completes. -/
lemma timed_assorted : ∃ g v,
    timeConfigured (timedConfig assortedConfig true) withX.matchesIn assortedWorld =
      .ok (.ok g, v) ∧
    g.summary.registered = [assortedX, assortedY] ∧ g.summary.skipped.length = 1 := by
  have hs : (Config.summary? (timeConfigured (timedConfig assortedConfig true) withX.matchesIn
      assortedWorld)).map (fun g => (g.registered, g.skipped.length)) =
      some ([assortedX, assortedY], 1) := by
    decide +kernel
  obtain ⟨g, v, ht, hg⟩ := Config.exists_of_summary? hs
  exact ⟨g, v, ht, (Prod.mk.inj hg).1, (Prod.mk.inj hg).2⟩

lemma run_assorted : (run assortedWorld (some "c.yaml") (some "x") true).exit = 0 := by
  obtain ⟨g, v, ht, -⟩ := timed_assorted
  rw [run_eq selector_x find_assorted, ht]

end CommandLine

end BenchRoster
