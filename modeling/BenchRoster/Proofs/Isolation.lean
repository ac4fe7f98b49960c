/-
# Isolation between backends

Whether a backend is loaded is its own affair: when the resolver answers by the locator alone and
the adapters end by the handle alone, it does not matter which other descriptors a suite has, where
they stand, and how their loads end.  The worlds of two registrations need not be equal for that, as
long as they are worlds of one view.

* `Sweep.Throughout` says that the loads of a sweep begin in worlds of a view;
* `Suite.register_throughout` says that the summary is then one of such loads;
* `Suite.register_isolated` compares the registrations of two suites.
-/
import BenchRoster.Proofs.Steady
import Mathlib.Data.List.Basic
import Mathlib.Data.List.Nodup
import Mathlib.Data.List.Perm.Basic

namespace BenchRoster

/-! ## Sweeps in a view -/

section Throughout

variable {τ ρ σ δ : Type} {P : View τ} {rg : Registrar τ ρ σ} {l : Loader τ} {report : Sink τ δ}

/-- The registrar lets the sweep go on to its end, and each load begins in a world of the view. -/
def Sweep.Throughout (P : View τ) (rg : Registrar τ ρ σ) (l : Loader τ) (report : Sink τ δ) :
    List (Descriptor τ) → Sweep σ δ → World τ → Prop
  | [], _, _ => True
  | d :: ds, s, w =>
    w.In P ∧ ∃ u v, Sweep.step rg l report d s w = (.ok u, v) ∧ Throughout P rg l report ds u v

/-- A registration of that kind. -/
def Suite.Throughout (P : View τ) (rg : Registrar τ ρ σ) (l : Loader τ) (report : Sink τ δ)
    (s : Suite τ) (kept : ρ) (sink : δ) (w : World τ) : Prop :=
  Sweep.Throughout P rg l report s.roster.descriptors
    { scope := rg.openSuite s.name kept, sink } w

/-- Loads of some descriptors, each in some world of the view. -/
structure LoadedIn (P : View τ) (l : Loader τ) (ds : List (Descriptor τ)) (as : List (Load τ)) :
    Prop where
  descriptors : as.map Load.descriptor = ds
  answers : ∀ a ∈ as, ∃ x : World τ, x.In P ∧ a.answer = (l.load a.descriptor x).1

/-- A sweep in a view adds what its loads come to. -/
lemma Sweep.run_throughout {ds : List (Descriptor τ)} {s : Sweep σ δ} {w : World τ}
    (h : Throughout P rg l report ds s w) :
    ∃ u v as, run rg l report ds s w = (.ok u, v) ∧ LoadedIn P l ds as ∧
      u.registered = s.registered ++ (loaded as).map (·.name) ∧
      u.skipped = s.skipped ++ failures as := by
  induction ds generalizing s w with
  | nil => exact ⟨s, w, [], rfl, ⟨rfl, by simp⟩, by simp, by simp⟩
  | cons d ds ih =>
    obtain ⟨hw, u, v, hu, h⟩ := h
    obtain ⟨hr, hs⟩ := step_accounts hu
    obtain ⟨y, x, as, hy, ha, hyr, hys⟩ := ih h
    refine ⟨y, x, ⟨d, (l.load d w).1⟩ :: as, ?_, ⟨?_, ?_⟩, ?_, ?_⟩
    · rw [run_cons_ok hu, hy]
    · rw [List.map_cons, ha.descriptors]
    · exact List.forall_mem_cons.2 ⟨⟨w, hw, rfl⟩, ha.answers⟩
    · rw [hyr, hr, loaded_cons ⟨d, (l.load d w).1⟩ as, List.map_append, List.append_assoc]
    · rw [hys, hs, failures_cons ⟨d, (l.load d w).1⟩ as, List.append_assoc]

/-- A recorder always goes on, so the view has only to hold after the loads that came before. -/
lemma Sweep.throughout_recording {ds : List (Descriptor τ)} {w : World τ}
    (h : ∀ k < ds.length, (l.loadAll (ds.take k) w).2.In P)
    (s : Sweep (RecordedSuite τ) (List String)) :
    Throughout P (Recorder.registrar τ) l (Sink.lines τ) ds s w := by
  induction ds generalizing s w with
  | nil => exact trivial
  | cons d ds ih =>
    exact ⟨h 0 (Nat.succ_pos _), _, _, step_recording l d s w,
      ih (fun k hk => h (k + 1) (Nat.succ_lt_succ hk)) _⟩

end Throughout

namespace LoadedIn

variable {τ : Type} {P : View τ} {l : Loader τ} {ds : List (Descriptor τ)} {as : List (Load τ)}

lemma attributed (h : LoadedIn P l ds as) : ∀ a ∈ as, a.Attributed := by
  rintro ⟨d, x⟩ ha
  obtain ⟨w, -, hx⟩ := h.answers _ ha
  have hx' : x = (l.load d w).1 := hx
  rw [hx']
  exact l.attributed_load d w

lemma map_descriptor_name (h : LoadedIn P l ds as) :
    as.map (·.descriptor.name) = ds.map (·.name) := by
  rw [← h.descriptors, List.map_map]
  rfl

lemma exists_load (h : LoadedIn P l ds as) {d : Descriptor τ} (hd : d ∈ ds) :
    ∃ x w, ⟨d, x⟩ ∈ as ∧ World.In w P ∧ x = (l.load d w).1 := by
  rw [← h.descriptors] at hd
  obtain ⟨⟨e, x⟩, ha, rfl⟩ := List.mem_map.1 hd
  obtain ⟨w, hw, hx⟩ := h.answers _ ha
  exact ⟨x, w, ha, hw, hx⟩

end LoadedIn

/-! ## Summaries -/

/-- The summary of a suite tells of such loads of its descriptors. -/
structure Summary.Tells {τ : Type} (P : View τ) (l : Loader τ) (s : Suite τ) (g : Summary)
    (as : List (Load τ)) : Prop extends LoadedIn P l s.roster.descriptors as where
  registered : g.registered = (loaded as).map (·.name)
  skipped : g.skipped = failures as

namespace Summary.Tells

variable {τ : Type} {P : View τ} {l : Loader τ} {s : Suite τ} {g : Summary} {as : List (Load τ)}

lemma nodup (h : Tells P l s g as) : (as.map (·.descriptor.name)).Nodup := by
  rw [h.map_descriptor_name]
  exact s.roster.distinct

lemma mem_registered_iff (h : Tells P l s g as) {a : Load τ} (ha : a ∈ as) :
    a.descriptor.name ∈ g.registered ↔ a.succeeded = true := by
  rw [h.registered]
  exact mem_map_name_loaded_iff h.attributed h.nodup ha

lemma mem_skipped_iff (h : Tells P l s g as) {a : Load τ} (ha : a ∈ as) :
    a.descriptor.name ∈ g.skipped.map (·.backend) ↔ a.succeeded = false := by
  rw [h.skipped]
  exact mem_map_backend_failures_iff h.attributed h.nodup ha

/-- The registered names keep the order of declaration. -/
lemma registered_eq_filter (h : Tells P l s g as) :
    g.registered = s.roster.names.filter (· ∈ g.registered) := by
  rw [Roster.names, ← h.map_descriptor_name, List.filter_map]
  conv_lhs => rw [h.registered, map_name_loaded h.attributed]
  congr 1
  refine List.filter_congr fun a ha => ?_
  rw [Bool.eq_iff_iff, Function.comp_apply, decide_eq_true_eq, h.mem_registered_iff ha]

/-- So do the names of the failures, which are those of the others. -/
lemma skipped_eq_filter (h : Tells P l s g as) :
    g.skipped.map (·.backend) = s.roster.names.filter (· ∉ g.registered) := by
  rw [Roster.names, ← h.map_descriptor_name, List.filter_map, h.skipped,
    map_backend_failures h.attributed]
  congr 1
  refine List.filter_congr fun a ha => ?_
  rw [Bool.eq_iff_iff, Function.comp_apply, decide_eq_true_eq, h.mem_registered_iff ha,
    Bool.not_eq_true, Bool.not_eq_true']

end Summary.Tells

/-- A registration in a view goes through to its end, and its summary tells of its loads. -/
lemma Suite.register_throughout {τ ρ σ δ : Type} {P : View τ} {rg : Registrar τ ρ σ} {l : Loader τ}
    {report : Sink τ δ} {s : Suite τ} {kept : ρ} {sink : δ} {w : World τ}
    (h : s.Throughout P rg l report kept sink w) :
    ∃ g v as, s.register rg l report kept sink w = (.ok g, v) ∧ g.summary.Tells P l s as := by
  obtain ⟨u, v, as, hu, ha, hr, hs⟩ := Sweep.run_throughout h
  exact ⟨⟨⟨s.name, u.registered, u.skipped⟩, rg.closeSuite u.scope kept, u.sink⟩, v, as,
    by simp only [register, hu], ha, hr, hs⟩

/-- Two summaries agree on a backend: it is registered in both, or skipped in both, with the same
diagnostic but for a temporary path. -/
inductive Summary.Agree (g h : Summary) (n : BackendName) : Prop
  | registered (hg : n ∈ g.registered) (hh : n ∈ h.registered)
      (hgs : n ∉ g.skipped.map (·.backend)) (hhs : n ∉ h.skipped.map (·.backend))
  | skipped {f k : LoadFailure} (hf : f ∈ g.skipped) (hk : k ∈ h.skipped)
      (hfb : f.backend = n) (hkb : k.backend = n) (hm : SameButTemporary f.message k.message)
      (hg : n ∉ g.registered) (hh : n ∉ h.registered)

namespace Summary

variable {τ : Type} {P : View τ} {l : Loader τ} {s t : Suite τ} {g h : Summary}
  {as bs : List (Load τ)}

/-- A backend on which summaries agree is registered in both or in none. -/
lemma Agree.mem_registered_iff {n : BackendName} (a : g.Agree h n) :
    n ∈ h.registered ↔ n ∈ g.registered := by
  cases a with
  | registered hg hh => exact iff_of_true hh hg
  | skipped _ _ _ _ _ hg hh => exact iff_of_false hh hg

/-- Summaries that tell of loads in one view agree on a descriptor of both suites. -/
lemma Tells.agree (hg : g.Tells P l s as) (hh : h.Tells P l t bs)
    {d : Descriptor τ} (hl : Resolver.Steady P l.resolver d.locator)
    (hd : Adapter.Steady P d.adapter) (hds : d ∈ s.roster.descriptors)
    (hdt : d ∈ t.roster.descriptors) : g.Agree h d.name := by
  obtain ⟨x, w, hx, hw, hxw⟩ := hg.exists_load hds
  obtain ⟨y, v, hy, hv, hyv⟩ := hh.exists_load hdt
  have hxy := Loader.load_alike hl hd hw hv
  rw [← hxw, ← hyv] at hxy
  cases hxy with
  | ok a b =>
    refine .registered ((hg.mem_registered_iff hx).2 rfl) ((hh.mem_registered_iff hy).2 rfl) ?_ ?_
    · exact fun hn => Bool.noConfusion ((hg.mem_skipped_iff hx).1 hn)
    · exact fun hn => Bool.noConfusion ((hh.mem_skipped_iff hy).1 hn)
  | @error f k hm =>
    have hf : f.backend = d.name ∧ f.locator = d.locator := hg.attributed _ hx
    have hk : k.backend = d.name ∧ k.locator = d.locator := hh.attributed _ hy
    have hfg : f ∈ g.skipped := by
      rw [hg.skipped]
      exact List.mem_filterMap.2 ⟨_, hx, rfl⟩
    have hkh : k ∈ h.skipped := by
      rw [hh.skipped]
      exact List.mem_filterMap.2 ⟨_, hy, rfl⟩
    refine .skipped hfg hkh hf.1 hk.1 hm ?_ ?_
    · exact fun hn => Bool.noConfusion ((hg.mem_registered_iff hx).1 hn)
    · exact fun hn => Bool.noConfusion ((hh.mem_registered_iff hy).1 hn)

end Summary

/-- **Whether a backend is loaded is its own affair.**  Two suites are registered with one loader,
in worlds of one view in which, for the descriptors of both suites, the resolver answers by the
locator alone and the adapters end by the handle alone.  The registrations agree on each of these
descriptors, whatever the others are, where they stand and how their loads end.  When the suites
have the same descriptors in another order, the second registration has the lists of the first one
in its own order. -/
theorem Suite.register_isolated {τ ρ ρ' σ σ' δ δ' : Type} {P : View τ} {rg : Registrar τ ρ σ}
    {rg' : Registrar τ ρ' σ'} {l : Loader τ} {report : Sink τ δ} {report' : Sink τ δ'}
    {s t : Suite τ} {kept : ρ} {kept' : ρ'} {sink : δ} {sink' : δ'} {w v : World τ}
    (hl : ∀ d ∈ s.roster.descriptors, d ∈ t.roster.descriptors →
      Resolver.Steady P l.resolver d.locator)
    (hd : ∀ d ∈ s.roster.descriptors, d ∈ t.roster.descriptors → Adapter.Steady P d.adapter)
    (hs : s.Throughout P rg l report kept sink w)
    (ht : t.Throughout P rg' l report' kept' sink' v) :
    ∃ g h w' v', s.register rg l report kept sink w = (.ok g, w') ∧
      t.register rg' l report' kept' sink' v = (.ok h, v') ∧
      (∀ d ∈ s.roster.descriptors, d ∈ t.roster.descriptors →
        g.summary.Agree h.summary d.name) ∧
      (s.roster.descriptors.Perm t.roster.descriptors →
        h.summary.registered = t.roster.names.filter (· ∈ g.summary.registered) ∧
        h.summary.skipped.map (·.backend) =
          t.roster.names.filter (· ∉ g.summary.registered) ∧
        g.summary.registered.Perm h.summary.registered ∧
        (g.summary.skipped.map (·.backend)).Perm (h.summary.skipped.map (·.backend))) := by
  obtain ⟨g, w', as, hgs, hg⟩ := register_throughout hs
  obtain ⟨h, v', bs, hht, hh⟩ := register_throughout ht
  have ha : ∀ d ∈ s.roster.descriptors, d ∈ t.roster.descriptors →
      g.summary.Agree h.summary d.name :=
    fun d hds hdt => hg.agree hh (hl d hds hdt) (hd d hds hdt) hds hdt
  refine ⟨g, h, w', v', hgs, hht, ha, fun hp => ?_⟩
  -- the order is that of the second suite, and the names are those of the first registration
  have hm : ∀ n ∈ t.roster.names, n ∈ h.summary.registered ↔ n ∈ g.summary.registered := by
    intro n hn
    obtain ⟨d, hdt, rfl⟩ := List.mem_map.1 hn
    exact (ha d (hp.mem_iff.2 hdt) hdt).mem_registered_iff
  have hr : h.summary.registered = t.roster.names.filter (· ∈ g.summary.registered) :=
    hh.registered_eq_filter.trans
      (List.filter_congr fun n hn => by rw [decide_eq_decide, hm n hn])
  have hk : h.summary.skipped.map (·.backend) =
      t.roster.names.filter (· ∉ g.summary.registered) :=
    hh.skipped_eq_filter.trans
      (List.filter_congr fun n hn => by rw [decide_eq_decide, hm n hn])
  have hn : s.roster.names.Perm t.roster.names := hp.map _
  refine ⟨hr, hk, ?_, ?_⟩
  · have hf := hn.filter (· ∈ g.summary.registered)
    rwa [← hg.registered_eq_filter, ← hr] at hf
  · have hf := hn.filter (· ∉ g.summary.registered)
    rwa [← hg.skipped_eq_filter, ← hk] at hf

/-! ## Two orders of one suite -/

namespace TwoOrders

def plain : BackendName := ⟨"plain", by decide +kernel⟩
def configured : BackendName := ⟨"configured", by decide +kernel⟩
def broken : BackendName := ⟨"broken", by decide +kernel⟩

def tool : Locator := ⟨"tool", by decide +kernel⟩

def cat : Locator := ⟨"cat", by decide +kernel⟩

/-- Machines that make their temporary directories in the given one. -/
def machine (temporary : String) (n : ℕ) : Machine :=
  { Machine.fresh with temporary, nextTemporary := n }

def world (temporary : String) (n : ℕ) : World Unit :=
  { machine := machine temporary n, ambient := () }

/-- The two locators lead where they lead on a fresh machine. -/
def Equipped (m : Machine) : Prop :=
  Lookup.program m [] tool = .error (.notFound tool) ∧
    Lookup.program m [] cat = .ok "/usr/bin/cat"

/-- Equipped machines on which options can be written, whatever else is in their files. -/
def roomy : View Unit := fun m _ => Equipped m ∧ (Adapter.prepareOptions {} m).1.isOk = true

/-- Equipped machines without a directory for temporary files. -/
def cramped : View Unit := fun m _ =>
  Equipped m ∧ m.temporary = "/missing" ∧ m.files.find m.workDir "/missing" = .error .noEntry

instance (w : World Unit) : Decidable (w.In roomy) := inferInstanceAs (Decidable ((_ ∧ _) ∧ _))

instance (w : World Unit) : Decidable (w.In cramped) :=
  inferInstanceAs (Decidable ((_ ∧ _) ∧ _ ∧ _))

/-- Tools are found in a table, and programs on the machine. -/
def loader : Loader Unit :=
  ⟨Resolver.chain [HandleTable.resolver ⟨[(tool.text, fun _ _ => .pure [])]⟩, programResolver _ []],
    Workload.fixed⟩

/-- Three backends: a tool, a program that is given options, and one that panics. -/
def descriptors : List (Descriptor Unit) :=
  [⟨plain, tool, Adapter.forward _ []⟩,
    ⟨configured, cat, Adapter.command _ [] (some {}) "--config"⟩,
    ⟨broken, tool, fun _ => .panic (.fixed "broken")⟩]

def suite : Suite Unit :=
  ⟨⟨"suite", by decide +kernel⟩, ⟨descriptors, by decide +kernel⟩⟩

def reversed : Suite Unit :=
  ⟨⟨"reversed", by decide +kernel⟩, ⟨descriptors.reverse, by decide +kernel⟩⟩

/-- The locators of the backends are steady, although a written file may be found by others. -/
lemma steady_loader {P : View Unit} (hP : ∀ m t, P m t → Equipped m) :
    ∀ d ∈ descriptors, Resolver.Steady P loader.resolver d.locator := by
  have hl : ∀ l : Locator, (∀ w v : World Unit, w.In P → v.In P →
      Lookup.program w.machine [] l = Lookup.program v.machine [] l) →
      Resolver.Steady P loader.resolver l := fun l h =>
    steady_chain (List.forall_mem_cons.2 ⟨HandleTable.steady_resolver _ _,
      List.forall_mem_singleton.2 (steady_programResolver h)⟩)
  have ht := hl tool fun w v hw hv => (hP _ _ hw).1.trans (hP _ _ hv).1.symm
  have hc := hl cat fun w v hw hv => (hP _ _ hw).2.trans (hP _ _ hv).2.symm
  simp only [descriptors, List.forall_mem_cons, List.not_mem_nil, false_implies, implies_true,
    and_true]
  exact ⟨ht, hc, ht⟩

lemma steady_adapters {P : View Unit}
    (h : Adapter.Steady P (Adapter.command _ [] (some {}) "--config")) :
    ∀ d ∈ descriptors, Adapter.Steady P d.adapter := by
  simp only [descriptors, List.forall_mem_cons, List.not_mem_nil, false_implies, implies_true,
    and_true]
  exact ⟨Adapter.steady_forward _, h, Adapter.steady_panic _⟩

/-- What is needed to compare the two orders in a view, with directories of other numbers. -/
structure Comparable (P : View Unit) (temporary : String) : Prop where
  resolver : ∀ d ∈ suite.roster.descriptors, d ∈ reversed.roster.descriptors →
    Resolver.Steady P loader.resolver d.locator
  adapters : ∀ d ∈ suite.roster.descriptors, d ∈ reversed.roster.descriptors →
    Adapter.Steady P d.adapter
  first : suite.Throughout P (Recorder.registrar _) loader (Sink.lines _) {} [] (world temporary 0)
  second : reversed.Throughout P (Recorder.registrar _) loader (Sink.lines _) {} []
    (world temporary 7)

lemma comparable_cramped : Comparable cramped "/missing" where
  resolver d hd _ := steady_loader (fun _ _ h => h.1) d hd
  adapters d hd _ :=
    steady_adapters (Adapter.steady_command (fun _ _ h => h.2) _ _ _) d hd
  first := Sweep.throughout_recording (by decide +kernel) _
  second := Sweep.throughout_recording (by decide +kernel) _

lemma comparable_roomy : Comparable roomy "/tmp" where
  resolver d hd _ := steady_loader (fun _ _ h => h.1) d hd
  adapters d hd _ := steady_adapters (Adapter.steady_command_of_ok (fun _ _ h => h.2) _ _) d hd
  first := Sweep.throughout_recording (by decide +kernel) _
  second := Sweep.throughout_recording (by decide +kernel) _

lemma perm_reversed : suite.roster.descriptors.Perm reversed.roster.descriptors :=
  (List.reverse_perm descriptors).symm

/-- The descriptors are those of both suites. -/
lemma names_of_both {p : BackendName → Prop}
    (h : ∀ d ∈ suite.roster.descriptors, d ∈ reversed.roster.descriptors → p d.name) :
    p plain ∧ p configured ∧ p broken := by
  have hd : ∀ d ∈ descriptors, p d.name := fun d hd => h d hd (List.mem_reverse.2 hd)
  simpa only [descriptors, List.forall_mem_cons, List.not_mem_nil, false_implies, implies_true,
    and_true] using hd

end TwoOrders

open TwoOrders in
/-- The program with options is skipped in both orders where there is no room for them, and loaded
in both where there is. -/
theorem Suite.register_isolated_reversed :
    Comparable cramped "/missing" ∧ Comparable roomy "/tmp" ∧
      suite.roster.descriptors.Perm reversed.roster.descriptors ∧
      (∃ g h w v,
        suite.register (Recorder.registrar _) loader (Sink.lines _) {} [] (world "/missing" 0) =
          (.ok g, w) ∧
        reversed.register (Recorder.registrar _) loader (Sink.lines _) {} []
          (world "/missing" 7) = (.ok h, v) ∧
        g.summary.registered = [plain] ∧ h.summary.registered = [plain] ∧
        g.summary.Agree h.summary configured ∧ g.summary.Agree h.summary broken ∧
        h.summary.skipped.map (·.backend) = [broken, configured]) ∧
      ∃ g h w v,
        suite.register (Recorder.registrar _) loader (Sink.lines _) {} [] (world "/tmp" 0) =
          (.ok g, w) ∧
        reversed.register (Recorder.registrar _) loader (Sink.lines _) {} [] (world "/tmp" 7) =
          (.ok h, v) ∧
        g.summary.registered = [plain, configured] ∧
        h.summary.registered = [configured, plain] ∧
        g.summary.Agree h.summary configured ∧ g.summary.Agree h.summary broken ∧
        h.summary.skipped.map (·.backend) = [broken] := by
  refine ⟨comparable_cramped, comparable_roomy, perm_reversed, ?_, ?_⟩
  · obtain ⟨hl, hd, hs, hr⟩ := comparable_cramped
    obtain ⟨g, h, w, v, hg, hh, ha, ho⟩ := Suite.register_isolated hl hd hs hr
    have he : (suite.register (Recorder.registrar _) loader (Sink.lines _) {} []
        (world "/missing" 0)).1.map (·.summary.registered) = .ok [plain] := by
      decide +kernel
    rw [hg] at he
    have hgr : g.summary.registered = [plain] := Except.ok.inj he
    obtain ⟨hhr, hhs, -, -⟩ := ho perm_reversed
    rw [hgr] at hhr hhs
    obtain ⟨-, hc, hb⟩ := names_of_both ha
    exact ⟨g, h, w, v, hg, hh, hgr, hhr, hc, hb, hhs⟩
  · obtain ⟨hl, hd, hs, hr⟩ := comparable_roomy
    obtain ⟨g, h, w, v, hg, hh, ha, ho⟩ := Suite.register_isolated hl hd hs hr
    have he : (suite.register (Recorder.registrar _) loader (Sink.lines _) {} []
        (world "/tmp" 0)).1.map (·.summary.registered) = .ok [plain, configured] := by
      decide +kernel
    rw [hg] at he
    have hgr : g.summary.registered = [plain, configured] := Except.ok.inj he
    obtain ⟨hhr, hhs, -, -⟩ := ho perm_reversed
    rw [hgr] at hhr hhs
    obtain ⟨-, hc, hb⟩ := names_of_both ha
    exact ⟨g, h, w, v, hg, hh, hgr, hhr, hc, hb, hhs⟩

end BenchRoster
