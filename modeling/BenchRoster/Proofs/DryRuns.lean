/-
# What a dry run reports

A dry run loads all backends of a configuration, and may call those that were loaded.  Its report
names the former in the order of declaration, and it gives the diagnostics of the others in the same
order.  Every loaded backend is called, once and in this order; a call that fails is counted, and
the next one is made in the world that it has left.

* `CalledInTurn` is the relation between such calls and the lines about them;
* `Checked.calledInTurn_iff` says that it is what the calls of a dry run come to, and
  `Checked.exists_of_ofSuite` reads the report off the loads and the calls;
* `CommandLine.check_report` says what a dry run prints, and with which code it exits.
-/
import BenchRoster.Proofs.Totals
import BenchRoster.Proofs.Verdicts

namespace BenchRoster

variable {τ : Type}

/-- Calls of backends one after the other, each in the world that the one before it has left; with
the line that is printed about each, and the number of those that have failed. -/
inductive CalledInTurn :
    World τ → List (LoadedBackend τ) → List String → ℕ → World τ → Prop where
  | nil {w : World τ} : CalledInTurn w [] [] 0 w
  | done {w u v : World τ} {b : LoadedBackend τ} {bs : List (LoadedBackend τ)} {out : Bytes}
      {lines : List String} {n : ℕ} (call : b.call w = (.done out, u))
      (rest : CalledInTurn u bs lines n v) :
      CalledInTurn w (b :: bs) (s!"  ✓ {b.name.text} ({out.length} bytes out)" :: lines) n v
  | failed {w u v : World τ} {b : LoadedBackend τ} {bs : List (LoadedBackend τ)}
      {e : TransformError} {lines : List String} {n : ℕ} (call : b.call w = (.failed e, u))
      (rest : CalledInTurn u bs lines n v) :
      CalledInTurn w (b :: bs) (s!"  ✗ {b.name.text} - {e.message}" :: lines) (n + 1) v

namespace Checked

/-- Results are those of calls that were made in turn. -/
lemma calledInTurn_of_callAll {bs : List (LoadedBackend τ)} {rs : List CallResult}
    {w v : World τ} (h : callAll bs w = (.ok rs, v)) :
    CalledInTurn w bs (rs.map callLine) (rs.countP failed) v := by
  induction bs generalizing w rs with
  | nil =>
    cases h
    exact .nil
  | cons b bs ih =>
    rw [callAll] at h
    rcases hc : b.call w with ⟨out | e | p, u⟩ <;> simp only [hc] at h
    · rcases hr : callAll bs u with ⟨p | rs', v'⟩ <;> rw [hr] at h <;> cases h
      rw [List.map_cons, List.countP_cons_of_neg (by simp [failed])]
      exact .done hc (ih hr)
    · rcases hr : callAll bs u with ⟨p | rs', v'⟩ <;> rw [hr] at h <;> cases h
      rw [List.map_cons, List.countP_cons_of_pos (by simp [failed])]
      exact .failed hc (ih hr)
    · cases h

/-- Calls in turn are those of a dry run: it makes the same ones and has the same lines about
them. -/
lemma calledInTurn_iff {bs : List (LoadedBackend τ)} {lines : List String} {n : ℕ}
    {w v : World τ} :
    CalledInTurn w bs lines n v ↔
      ∃ rs, callAll bs w = (.ok rs, v) ∧ rs.map callLine = lines ∧ rs.countP failed = n := by
  constructor
  · intro h
    induction h with
    | nil => exact ⟨[], rfl, rfl, rfl⟩
    | @done w u v b bs out lines n hc _ ih =>
      obtain ⟨rs, hr, rfl, rfl⟩ := ih
      exact ⟨⟨b.name, .ok out⟩ :: rs, by simp only [callAll, hc, hr], rfl,
        List.countP_cons_of_neg (by simp [failed])⟩
    | @failed w u v b bs e lines n hc _ ih =>
      obtain ⟨rs, hr, rfl, rfl⟩ := ih
      exact ⟨⟨b.name, .error e⟩ :: rs, by simp only [callAll, hc, hr], rfl,
        List.countP_cons_of_pos (by simp [failed])⟩
  · rintro ⟨rs, hr, rfl, rfl⟩
    exact calledInTurn_of_callAll hr

/-- The report of a dry run, by the loads and the calls. -/
lemma exists_of_ofSuite {s : Suite τ} {l : Loader τ} {invoke : Bool} {w v : World τ} {x : Checked}
    (h : ofSuite s l invoke w = (.ok x, v)) :
    x.summary = ⟨s.name, (loaded (s.loads l w)).map (·.name), failures (s.loads l w)⟩ ∧
      x.diagnostics = (failures (s.loads l w)).map (·.message) ∧
      (if invoke then
        callAll (loaded (s.loads l w)) (l.loadAll s.roster.descriptors w).2 = (.ok x.calls, v)
      else x.calls = [] ∧ v = (l.loadAll s.roster.descriptors w).2) := by
  rw [ofSuite, s.register_recording l {} [] w] at h
  cases invoke with
  | false =>
    cases h
    exact ⟨rfl, rfl, rfl, rfl⟩
  | true =>
    simp only [if_true, List.nil_append, List.flatMap_cons, List.flatMap_nil,
      List.append_nil] at h
    rcases hc : callAll (loaded (s.loads l w)) (l.loadAll s.roster.descriptors w).2
      with ⟨p | rs, v'⟩
    · rw [hc] at h
      cases h
    · rw [hc] at h
      cases h
      exact ⟨rfl, rfl, rfl⟩

end Checked

namespace CommandLine

lemma output_checkPrinted (x : Checked) (invoke strict : Bool) :
    (checkPrinted x invoke strict).output = text (x.lines invoke) := by
  unfold checkPrinted
  dsimp only
  split <;> rfl

/-- Only a strict dry run fails, and only over backends that cannot be used. -/
lemma exit_checkPrinted (x : Checked) (invoke strict : Bool) :
    (checkPrinted x invoke strict).exit =
      if strict ∧ (0 < x.summary.skipped.length ∨ 0 < x.calls.countP Checked.failed) then 1
      else 0 := by
  have husable : x.allUsable = false ↔
      0 < x.summary.skipped.length ∨ 0 < x.calls.countP Checked.failed := by
    rw [Checked.allUsable, Summary.allRegistered, Bool.and_eq_false_iff, Bool.not_eq_false',
      List.isEmpty_eq_false_iff, List.length_pos_iff, List.countP_pos_iff, List.any_eq_true]
  have hexit : ∀ b : Bool, (if b then (⟨1, text (x.lines invoke), text [strictNotice]⟩ : Printed)
      else ⟨0, text (x.lines invoke), ""⟩).exit = if b then 1 else 0 := by
    intro b
    cases b <;> rfl
  rw [checkPrinted, hexit]
  refine if_congr ?_ rfl rfl
  rw [Bool.and_eq_true, Bool.not_eq_true', husable]

/-- **What a dry run prints.**  If there is a configuration, then every backend of it is loaded, in
the order of declaration; the names of those that can be loaded are printed, then the diagnostics of
the others, each in this order, and in the end the numbers of both, which add up to the number of
backends.  When calls are asked for, each loaded backend is called once in the same order, and there
is a line about each.  A strict dry run exits with 1 if some backend could not be loaded or some
call has failed; all others exit with 0. -/
theorem check_report {w : World τ} {path : Option String} {c : Config}
    (hc : Config.find w.machine path = .ok c) (invoke strict : Bool) :
    ∃ (as : List (Load τ)) (x : Checked) (u v : World τ) (lines : List String) (n : ℕ),
      -- the loads, and then the calls
      (c.loader τ).loadAll (c.descriptors τ) w = (as, u) ∧
      as.map Load.descriptor = c.descriptors τ ∧
      Checked.ofConfig c invoke w = .ok (.ok x, v) ∧
      (if invoke then CalledInTurn u (loaded as) lines n v else n = 0 ∧ v = u) ∧
      -- the registered and the skipped backends
      let registered := (as.filter Load.succeeded).map (·.descriptor.name)
      let skipped := failures as
      (loaded as).map (·.name) = registered ∧
      (skipped.map fun f => (f.backend, f.locator)) = (as.filter (!·.succeeded)).map
        (fun a => (a.descriptor.name, a.descriptor.locator)) ∧
      registered.length + skipped.length = c.backends.length ∧
      -- the report
      (check w path invoke strict).output = text (
        [s!"Suite: {c.suite.text}", ""] ++ registered.map (fun m => s!"  ✓ {m.text}") ++
        skipped.map (fun f => s!"  ✗ {f.message}") ++
        (if invoke then ["", "Invoking each backend once:"] ++ lines else []) ++
        ["", s!"{registered.length} registered, {skipped.length} skipped"]) ∧
      (check w path invoke strict).exit =
        if strict ∧ (0 < skipped.length ∨ 0 < n) then 1 else 0 := by
  have hw := Config.Origin.wellFormed (o := .found w.machine path) hc
  obtain ⟨s, hs, hname, hd, -⟩ := hw.suiteOf_eq_ok τ
  obtain ⟨x, v, hx⟩ := Checked.ofConfig_ok hw invoke w
  have hx' : Checked.ofSuite s (c.loader τ) invoke w = (.ok x, v) := by
    rw [Checked.ofConfig, hs] at hx
    exact Except.ok.inj hx
  obtain ⟨hsum, hdiag, hcalls⟩ := Checked.exists_of_ofSuite hx'
  have hprinted : check w path invoke strict = checkPrinted x invoke strict := by
    rw [check, withConfig, hc]
    dsimp only
    rw [hx]
  have hatt := s.attributed_loads (c.loader τ) w
  refine ⟨s.loads (c.loader τ) w, x, ((c.loader τ).loadAll s.roster.descriptors w).2, v,
    x.calls.map Checked.callLine, x.calls.countP Checked.failed, by rw [← hd]; rfl, ?_, hx, ?_,
    map_name_loaded hatt, map_backend_locator_failures hatt, ?_, ?_, ?_⟩
  · rw [← hd]
    exact (c.loader τ).map_descriptor_loadAll _ w
  · cases invoke with
    | false => exact ⟨by rw [hcalls.1]; rfl, hcalls.2⟩
    | true => exact Checked.calledInTurn_of_callAll hcalls
  · rw [← map_name_loaded hatt, s.length_registered_add_skipped, Roster.size, hd,
      Config.descriptors, List.length_map]
  · rw [hprinted, output_checkPrinted, Checked.lines, Checked.callLines, hsum, hdiag, hname,
      ← map_name_loaded hatt]
    simp only [List.map_map, Function.comp_def]
  · rw [hprinted, exit_checkPrinted, hsum]

/-- The loads of three backends, and the world that they leave. -/
def assortedLoads : List (Load Unit) × World Unit :=
  (assortedConfig.loader Unit).loadAll (assortedConfig.descriptors Unit) assortedWorld

lemma assorted_loaded : (loaded assortedLoads.1).map (·.name) = [assortedX, assortedY] ∧
    (failures assortedLoads.1).map (fun f => (f.backend, f.message)) = [(assortedGone,
      "Cannot load missing for backend 'gone': no backend found for locator 'missing'")] := by
  decide +kernel

lemma assorted_called :
    (Checked.callAll (loaded assortedLoads.1) assortedLoads.2).1.toOption.map
        (fun rs => (rs.map Checked.callLine, rs.countP Checked.failed)) =
      some (["  ✓ x (10 bytes out)",
        "  ✗ y - /usr/bin/../bin/false exited with exit status: 1: "], 1) := by
  decide +kernel

/-- A strict dry run with calls: one backend is skipped, and the call of another fails. -/
theorem check_report_assorted :
    Config.find assortedWorld.machine (some "c.yaml") = .ok assortedConfig ∧
      ∃ (as : List (Load Unit)) (u v : World Unit),
        assortedLoads = (as, u) ∧ (loaded as).map (·.name) = [assortedX, assortedY] ∧
        (failures as).map (·.backend) = [assortedGone] ∧
        CalledInTurn u (loaded as) ["  ✓ x (10 bytes out)",
          "  ✗ y - /usr/bin/../bin/false exited with exit status: 1: "] 1 v ∧
        (check assortedWorld (some "c.yaml") true true).output = text [
          "Suite: transform", "", "  ✓ x", "  ✓ y",
          "  ✗ Cannot load missing for backend 'gone': no backend found for locator 'missing'",
          "", "Invoking each backend once:", "  ✓ x (10 bytes out)",
          "  ✗ y - /usr/bin/../bin/false exited with exit status: 1: ", "",
          "2 registered, 1 skipped"] ∧
        (check assortedWorld (some "c.yaml") true true).exit = 1 := by
  obtain ⟨as, -, u, v, lines, n, hload, -, -, hcalls, hnames, -, -, hout, hexit⟩ :=
    check_report find_assorted true true
  have hload : assortedLoads = (as, u) := hload
  obtain ⟨hl, hf⟩ := assorted_loaded
  have hrs := assorted_called
  rw [hload] at hl hf hrs
  -- calls in turn have one list of lines, which is that of these results
  obtain ⟨rs, hcall, hlines, hn⟩ := Checked.calledInTurn_iff.1 hcalls
  rw [hcall] at hrs
  obtain ⟨hrl, hrn⟩ := Prod.mk.inj (Option.some.inj hrs)
  obtain rfl := hlines.symm.trans hrl
  obtain rfl := hn.symm.trans hrn
  obtain ⟨f, hfs⟩ : ∃ f, failures as = [f] :=
    List.length_eq_one_iff.1 (by simpa using congrArg List.length hf)
  rw [hfs, List.map_singleton, List.cons.injEq, Prod.mk.injEq] at hf
  obtain ⟨⟨hb, hm⟩, -⟩ := hf
  refine ⟨find_assorted, as, u, v, hload, hl, by rw [hfs, List.map_singleton, hb], hcalls, ?_, ?_⟩
  · rw [hout, ← hnames, hl, hfs, List.map_singleton, hm, List.length_singleton]
    decide +kernel
  · rw [hexit, if_pos ⟨rfl, .inr Nat.one_pos⟩]

end CommandLine

end BenchRoster
