/-
# The commands agree about a file

A file holds a configuration or it does not, and the commands that read it cannot differ over that:
validating the file, listing its backends, and trying them without strictness all succeed, or all
fail in one way.  Trying the backends could spoil this in two ways, if a configuration that was read
made no suite, or if a backend panicked; neither can happen.

* `Checked.callAll_ok` and `Checked.ofConfig_ok`: a dry run of a well-formed configuration has a
  report;
* `CommandLine.exit_answer` gives the exit code of the three commands for a file;
* `CommandLine.readArguments_attached` and `CommandLine.readArguments_separate` read the arguments,
  and `CommandLine.exit_fileArgs` gives their exit code;
* `Config.wellFormed_and_commands_agree` is the main statement.
-/
import BenchRoster.CommandLine
import BenchRoster.Proofs.Forwarding
import BenchRoster.Proofs.Steady
import BenchRoster.Proofs.WellFormed

namespace BenchRoster

variable {τ : Type}

/-! ## Backends that do not panic -/

/-- Calling the backend never ends with a panic. -/
def LoadedBackend.Calm (b : LoadedBackend τ) : Prop := ∀ w p, (b.call w).1 ≠ .panicked p

lemma ofExcept_ne_panicked {ε α : Type} (x : Except ε α) (p : Payload) :
    Outcome.ofExcept x ≠ .panicked p := by
  cases x <;> simp [Outcome.ofExcept]

/-- A program that was found is run, and that gives a result or an error. -/
lemma programResolver_done {paths : List String} {l : Locator} {w v : World τ} {h : Handle τ}
    (hr : programResolver τ paths l w = (.done h, v)) : ∃ program, h = programHandle τ program := by
  rw [programResolver_apply] at hr
  rcases hp : Lookup.program w.machine paths l with e | program
  · rw [hp] at hr
    cases hr
  · rw [hp] at hr
    cases hr
    exact ⟨program, rfl⟩

namespace Config

/-- The backends of a configuration run programs, so they do not panic. -/
lemma calm_of_load {c : Config} {d : Descriptor τ} {w : World τ} {b : LoadedBackend τ}
    (hd : d ∈ c.descriptors τ) (h : ((c.loader τ).load d w).1 = .ok b) : b.Calm := by
  obtain ⟨a, u, i, v, hr, ha, rfl⟩ := Loader.exists_of_load_ok h
  obtain ⟨program, rfl⟩ := programResolver_done hr
  obtain ⟨e, -, rfl⟩ := List.mem_map.1 hd
  obtain ⟨args, -, hi⟩ := (Adapter.forwards_command e.args e.options e.flag).call ha
  intro w p
  rw [Invocation.bound, hi]
  exact ofExcept_ne_panicked _ p

end Config

namespace Checked

/-- Calling backends that do not panic gives a result for each. -/
lemma callAll_ok {bs : List (LoadedBackend τ)} (h : ∀ b ∈ bs, b.Calm) (w : World τ) :
    ∃ rs v, callAll bs w = (.ok rs, v) := by
  induction bs generalizing w with
  | nil => exact ⟨[], w, rfl⟩
  | cons b bs ih =>
    obtain ⟨hb, hbs⟩ := List.forall_mem_cons.1 h
    rcases hc : b.call w with ⟨out | e | p, u⟩
    · obtain ⟨rs, v, hr⟩ := ih hbs u
      exact ⟨⟨b.name, .ok out⟩ :: rs, v, by simp [callAll, hc, hr]⟩
    · obtain ⟨rs, v, hr⟩ := ih hbs u
      exact ⟨⟨b.name, .error e⟩ :: rs, v, by simp [callAll, hc, hr]⟩
    · exact absurd (by rw [hc]) (hb w p)

/-- A dry run with a loader whose backends do not panic has a report. -/
lemma ofSuite_ok {s : Suite τ} {l : Loader τ} {w : World τ}
    (h : ∀ b ∈ loaded (s.loads l w), b.Calm) (invoke : Bool) :
    ∃ x v, ofSuite s l invoke w = (.ok x, v) := by
  rw [ofSuite, s.register_recording l {} [] w]
  cases invoke with
  | false => exact ⟨_, _, rfl⟩
  | true =>
    obtain ⟨rs, v, hc⟩ := callAll_ok h (l.loadAll s.roster.descriptors w).2
    simp only [if_true, List.nil_append, List.flatMap_cons, List.flatMap_nil, List.append_nil, hc]
    exact ⟨_, _, rfl⟩

/-- A dry run of a well-formed configuration has a report. -/
lemma ofConfig_ok {c : Config} (h : c.WellFormed) (invoke : Bool) (w : World τ) :
    ∃ x v, ofConfig c invoke w = .ok (.ok x, v) := by
  obtain ⟨s, hs, -, hd, -⟩ := h.suiteOf_eq_ok τ
  have hc : ∀ b ∈ loaded (s.loads (c.loader τ) w), b.Calm := by
    intro b hb
    obtain ⟨a, ha, hab⟩ := exists_of_mem_loaded hb
    obtain ⟨hm, v, hv⟩ := Loader.exists_load_of_mem ha
    exact Config.calm_of_load (hd ▸ hm) (hv.symm.trans hab)
  obtain ⟨x, v, hx⟩ := ofSuite_ok hc invoke
  exact ⟨x, v, by rw [ofConfig, hs, Except.map, hx]⟩

end Checked

/-! ## Exit codes -/

namespace CommandLine

/-- The exit code of a command that only reads a configuration file. -/
def fileExit (m : Machine) (file : String) : Nat :=
  match Config.ofFile m file with
  | .ok _ => 0
  | .error _ => 1

/-- The requests that are about one file: to validate it, to list its backends, and to try them,
with calls or without, but not strictly. -/
def fileRequests (file : String) : List Request :=
  [⟨none, .validate file⟩, ⟨some file, .list⟩, ⟨some file, .check false false⟩,
    ⟨some file, .check true false⟩]

lemma exit_validate (m : Machine) (file : String) : (validate m file).exit = fileExit m file := by
  rw [validate, fileExit]
  cases Config.ofFile m file <;> rfl

lemma exit_list (m : Machine) (file : String) :
    (list m (some file)).exit = fileExit m file := by
  rw [list, withConfig, Config.find, fileExit]
  cases Config.ofFile m file <;> rfl

/-- Trying backends fails only where there is no configuration. -/
lemma exit_check (w : World τ) (file : String) (invoke : Bool) :
    (check w (some file) invoke false).exit = fileExit w.machine file := by
  rw [check, withConfig, Config.find, fileExit]
  rcases hc : Config.ofFile w.machine file with e | c
  · rfl
  · obtain ⟨x, v, hx⟩ := Checked.ofConfig_ok (Config.wellFormed_of_ofFile hc) invoke w
    simp only [hx]
    rfl

/-- All requests about a file have one exit code. -/
lemma exit_answer (w : World τ) (file : String) {r : Request} (h : r ∈ fileRequests file) :
    (answer w r).exit = fileExit w.machine file := by
  simp only [fileRequests, List.mem_cons, List.not_mem_nil, or_false] at h
  rcases h with rfl | rfl | rfl | rfl
  · exact exit_validate w.machine file
  · exact exit_list w.machine file
  · exact exit_check w file false
  · exact exit_check w file true

/-! ## Arguments -/

/-- The arguments for the requests about a file, with the file where it cannot be taken for an
option. -/
def attachedArgs (file : String) : List (List String) :=
  [["validate", "--", file], ["--config=" ++ file, "list"], ["--config=" ++ file, "check"],
    ["--config=" ++ file, "check", "--invoke"]]

/-- The arguments for these requests with the file as an argument of its own. -/
def separateArgs (file : String) : List (List String) :=
  [["validate", file], ["--config", file, "list"], ["--config", file, "check"],
    ["--config", file, "check", "--invoke"]]

lemma toList_attached (file : String) :
    ("--config=" ++ file).toList =
      '-' :: '-' :: 'c' :: 'o' :: 'n' :: 'f' :: 'i' :: 'g' :: '=' :: file.toList := by
  rw [String.toList_append]
  rfl

/-- The file behind an equals sign, whatever it is. -/
lemma readOption_attached (file : String) (f : Found) :
    readOption generalOptions ("--config=" ++ file) f =
      (f.addOption "config" file).map fun f => (f, none) := by
  have hs : generalOptions.find? (fun s => s.name == "config") =
      some ⟨"config", some 'c', .value⟩ := by decide
  rw [readOption, toList_attached]
  simp [readLong, hs]

lemma readArguments_attached (file : String) (rest : List String) :
    readArguments generalOptions true 0 (("--config=" ++ file) :: rest) {} =
      readArguments generalOptions true 0 rest ⟨[("config", file)], []⟩ := by
  have hne : "--config=" ++ file ≠ "--" := by
    intro h
    have ht := congrArg String.toList h
    rw [toList_attached] at ht
    cases ht
  have ho : isOption ("--config=" ++ file) = true := by
    rw [isOption, toList_attached]
    rfl
  rw [readArguments, if_neg hne, if_pos ho, readOption_attached]
  rfl

/-- The file as the argument after the option, as long as it does not look like one itself. -/
lemma readArguments_separate {file : String} (h : isOption file = false) (rest : List String) :
    readArguments generalOptions true 0 ("--config" :: file :: rest) {} =
      readArguments generalOptions true 0 rest ⟨[("config", file)], []⟩ := by
  have ho : readOption generalOptions "--config" {} = .ok ({}, some ⟨"config", some 'c', .value⟩) :=
    rfl
  rw [readArguments, if_neg (by decide), if_pos (by decide), ho]
  simp only [h]
  rfl

/-- The file as the only argument of a command. -/
lemma readArguments_value {file : String} (h : isOption file = false) :
    readArguments [helpOption] false 1 [file] {} = .ok (⟨[], [file]⟩, []) := by
  have hne : file ≠ "--" := by
    rintro rfl
    cases h
  rw [readArguments, if_neg hne, h]
  rfl

lemma readRequest_validate {file : String} (h : isOption file = false) :
    readRequest ["validate", file] = .ok ⟨none, .validate file⟩ := by
  -- what is done with the arguments of the command, once they have been read
  obtain ⟨k, hr, hk⟩ : ∃ k : Found × List String → Except Stop Request,
      readRequest ["validate", file] = (readArguments [helpOption] false 1 [file] {}).bind k ∧
        k (⟨[], [file]⟩, []) = .ok ⟨none, .validate file⟩ := ⟨_, rfl, rfl⟩
  rw [hr, readArguments_value h]
  exact hk

/-- Behind an equals sign, or behind two hyphens, any file will do. -/
lemma map_readRequest_attached (file : String) :
    (attachedArgs file).map readRequest = (fileRequests file).map .ok := by
  simp only [attachedArgs, fileRequests, List.map_cons, List.map_nil]
  refine congrArg₂ _ rfl (congrArg₂ _ ?_ (congrArg₂ _ ?_ (congrArg₂ _ ?_ rfl))) <;>
  · rw [readRequest, readArguments_attached]
    rfl

/-- As an argument of its own it must not look like an option. -/
lemma map_readRequest_separate {file : String} (h : isOption file = false) :
    (separateArgs file).map readRequest = (fileRequests file).map .ok := by
  simp only [separateArgs, fileRequests, List.map_cons, List.map_nil]
  refine congrArg₂ _ ?_ (congrArg₂ _ ?_ (congrArg₂ _ ?_ (congrArg₂ _ ?_ rfl)))
  · exact readRequest_validate h
  all_goals
    rw [readRequest, readArguments_separate h]
    rfl

/-- Arguments that are read as requests about a file have the exit code of these. -/
lemma exit_execute {argss : List (List String)} {file : String}
    (h : argss.map readRequest = (fileRequests file).map .ok) (w : World τ) :
    ∀ args ∈ argss, (execute w args).exit = fileExit w.machine file := by
  intro args ha
  have hm : readRequest args ∈ (fileRequests file).map .ok := h ▸ List.mem_map_of_mem ha
  obtain ⟨r, hr, he⟩ := List.mem_map.1 hm
  rw [execute, ← he]
  exact exit_answer w file hr

/-- The arguments for the requests about a file. -/
def fileArgs (file : String) : List (List String) :=
  attachedArgs file ++ if isOption file then [] else separateArgs file

lemma exit_fileArgs (w : World τ) (file : String) :
    ∀ args ∈ fileArgs file, (execute w args).exit = fileExit w.machine file := by
  intro args ha
  rcases List.mem_append.1 ha with ha | ha
  · exact exit_execute (map_readRequest_attached file) w args ha
  · split at ha
    · cases ha
    · rename_i hf
      exact exit_execute (map_readRequest_separate (Bool.eq_false_iff.2 hf)) w args ha

end CommandLine

namespace Config

open CommandLine

/-- **Configurations are well formed, and the commands agree about them.**  Wherever a configuration
comes from, it obeys the rules; so its backends make a roster and a suite, in their order.  And for
every file in every world, validating it, listing its backends and trying them without strictness
all exit with 0, or all with 1: as requests, and as arguments, where a file that looks like an
option must stand behind an equals sign or two hyphens. -/
theorem wellFormed_and_commands_agree :
    (∀ (o : Origin) (c : Config), o.config = .ok c →
      c.WellFormed ∧
      (∀ τ, ∃ r, c.roster τ = .ok r ∧ r.names = c.backends.map (·.name)) ∧
      ∀ τ, ∃ s, c.suiteOf τ = .ok s ∧ s.name = c.suite ∧
        s.roster.names = c.backends.map (·.name)) ∧
    ∀ (τ : Type) (w : World τ) (file : String), ∃ code, (code = 0 ∨ code = 1) ∧
      (∀ r ∈ fileRequests file, (answer w r).exit = code) ∧
      ∀ args ∈ fileArgs file, (execute w args).exit = code := by
  constructor
  · intro o c h
    have hw := Origin.wellFormed h
    refine ⟨hw, fun τ => ?_, fun τ => ?_⟩
    · obtain ⟨r, hr, -, hn⟩ := hw.roster_eq_ok τ
      exact ⟨r, hr, hn⟩
    · obtain ⟨s, hs, hc, -, hn⟩ := hw.suiteOf_eq_ok τ
      exact ⟨s, hs, hc, hn⟩
  · intro τ w file
    refine ⟨fileExit w.machine file, ?_, fun r hr => exit_answer w file hr, exit_fileArgs w file⟩
    rw [fileExit]
    split
    · exact .inl rfl
    · exact .inr rfl

/-- A machine with a configuration file in a directory. -/
def nestedFile : Machine :=
  Machine.fresh.addFile "conf/suite.yaml" 0o644
    (Text.utf8 ("suite: site\nresolver:\n  search_paths: [bin, /opt/bin]\n" ++
      "backends:\n- name: minify\n  locator: ./minify\n"))

/-- What the file describes: the relative search directory is taken from that of the file. -/
def nestedConfig : Config :=
  { suite := ⟨"site", by decide⟩, timing := {}, searchPaths := ["conf/bin", "/opt/bin"],
    backends := [⟨⟨"minify", by decide⟩, ⟨"./minify", by decide⟩, [], none, defaultFlag⟩] }

theorem wellFormed_nestedConfig :
    (Origin.file nestedFile "conf/suite.yaml").config = .ok nestedConfig ∧
      nestedConfig.WellFormed ∧
      ∃ r, nestedConfig.roster Unit = .ok r ∧ r.names = nestedConfig.backends.map (·.name) := by
  have h : (Origin.file nestedFile "conf/suite.yaml").config = .ok nestedConfig := by
    decide +kernel
  obtain ⟨hw, hr, -⟩ := wellFormed_and_commands_agree.1 _ _ h
  exact ⟨h, hw, hr Unit⟩

end Config

end BenchRoster
