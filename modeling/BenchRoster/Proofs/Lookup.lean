/-
# Where programs are found

A locator with a slash is the path of its program.  Any other locator is a name, which is looked up
in the configured directories that exist, and then in those of the machine.  The first look-up hands
its directories on as one text, so it can only be made if no such directory holds the separator of
lists, and if the working directory is still there.  As long as it can be made, both look-ups come
to one search through all directories; if not, the locator leads to nothing, whatever the
directories of the machine hold.  The second look-up needs the environment to list directories at
all.

* `Machine.splitDirectories_of_join` says that the directories are got back from their text;
* `Machine.FirstHolder` is the first of some directories that holds a program of a name;
* `Lookup.Searchable` says when the look-up can be made, and `Lookup.program_of_searchable` and
  `Lookup.program_of_not_searchable` what it comes to;
* `programResolver_precedence` tells which program a locator leads to;
* `programResolver_insert` says what one more directory does to a locator that leads to a program.
-/
import BenchRoster.Proofs.Steady
import Mathlib.Tactic.Lemma

namespace BenchRoster

/-! ## Directories and what they hold -/

namespace Machine

variable {m : Machine} {name path : String} {dirs : List String}

lemma joinDirectories?_eq_none_iff :
    joinDirectories? dirs = none ↔ ∃ d ∈ dirs, ':' ∈ d.toList := by
  rw [joinDirectories?]
  split <;> simp_all

/-- Directories without colons are got back from their text. -/
lemma splitDirectories_of_join {list : String} (hne : dirs ≠ [])
    (h : joinDirectories? dirs = some list) : splitDirectories list = dirs := by
  have hc : ∀ cs ∈ dirs.map String.toList, ':' ∉ cs := by
    have hn : joinDirectories? dirs ≠ none := by rw [h]; exact Option.some_ne_none list
    rw [Ne, joinDirectories?_eq_none_iff] at hn
    simpa using hn
  have hl : list = ":".intercalate dirs := by
    rw [joinDirectories?] at h
    split at h
    · cases h
    · exact (Option.some.inj h).symm
  have hcs : (":" : String).toList = [':'] := rfl
  rw [splitDirectories, hl, String.toList_intercalate, hcs,
    List.splitOn_intercalate ':' hc (by simpa using hne), List.map_map]
  exact (List.map_congr_left fun d _ => String.ofList_toList).trans (List.map_id dirs)

/-- The path leads to a regular file. -/
def HasFile (m : Machine) (path : String) : Prop :=
  ∃ p e, m.files.find m.workDir path = .ok (p, e) ∧ e.isFile = true

/-- The path leads to a regular file that some execute bit allows to be run. -/
def HasProgram (m : Machine) (path : String) : Prop :=
  ∃ p e, m.files.find m.workDir path = .ok (p, e) ∧ e.isFile = true ∧ e.isExecutable = true

lemma isFile_iff : m.isFile path = true ↔ m.HasFile path := by
  rw [isFile, HasFile]
  split <;> simp_all

lemma isProgram_iff : m.isProgram path = true ↔ m.HasProgram path := by
  rw [isProgram, HasProgram]
  split <;> simp_all

instance : Decidable (m.HasFile path) := decidable_of_iff _ isFile_iff

instance : Decidable (m.HasProgram path) := decidable_of_iff _ isProgram_iff

/-- The first of some directories that holds a program of that name. -/
def FirstHolder (m : Machine) (name : String) (dirs : List String) (d : String) : Prop :=
  ∃ before after, dirs = before ++ d :: after ∧ m.HasProgram (Path.join d name) ∧
    ∀ x ∈ before, ¬m.HasProgram (Path.join x name)

/-- The directories of the machine itself, which are those that `PATH` lists, and none without it; a
tilde in front stands for the home directory. -/
def ownDirectories (m : Machine) : List String := (m.searchPath?.getD []).map m.expandHome

/-- A directory without a tilde in front stands for itself. -/
lemma expandHome_of_head {d : String} (h : (Path.pieces d).head? ≠ some "~") :
    m.expandHome d = d := by
  rw [expandHome]
  split
  · rename_i he
    rw [he] at h
    exact absurd rfl h
  · rfl

lemma map_candidate : dirs.map (m.candidate name) =
    (dirs.map m.expandHome).map fun d => Path.join d name := by
  rw [List.map_map]
  rfl

/-- A program that is found is that of the first directory which holds one. -/
lemma firstProgram?_of_firstHolder {d : String}
    (h : m.FirstHolder name (dirs.map m.expandHome) d) :
    m.firstProgram? name dirs = some (Path.join d name) := by
  obtain ⟨before, after, he, hd, hb⟩ := h
  rw [firstProgram?, map_candidate, he, List.map_append, List.map_cons,
    List.find?_eq_some_iff_append]
  refine ⟨isProgram_iff.2 hd, _, _, rfl, fun p hp => ?_⟩
  obtain ⟨x, hx, rfl⟩ := List.mem_map.1 hp
  simpa [← isProgram_iff] using hb x hx

lemma firstProgram?_eq_none_iff :
    m.firstProgram? name dirs = none ↔
      ∀ d ∈ dirs.map m.expandHome, ¬m.HasProgram (Path.join d name) := by
  rw [firstProgram?, map_candidate, List.find?_eq_none]
  simp [isProgram_iff]

/-- Two lists of directories are searched one after the other. -/
lemma firstProgram?_append (xs ys : List String) :
    m.firstProgram? name (xs ++ ys) = (m.firstProgram? name xs).or (m.firstProgram? name ys) := by
  rw [firstProgram?, List.map_append, List.find?_append]
  rfl

/-- One more directory only adds its own program to those that may be found. -/
lemma firstProgram?_insert {xs ys : List String} {p : String} (d : String)
    (h : m.firstProgram? name (xs ++ ys) = some p) :
    ∃ q, m.firstProgram? name (xs ++ d :: ys) = some q ∧ (q = p ∨ q = m.candidate name d) := by
  rw [firstProgram?_append] at h
  rw [firstProgram?_append, ← List.singleton_append, firstProgram?_append]
  rcases hx : m.firstProgram? name xs with _ | x
  · rw [hx, Option.none_or] at h
    rw [Option.none_or, h]
    rcases hd : m.firstProgram? name [d] with _ | q
    · exact ⟨p, rfl, .inl rfl⟩
    · refine ⟨q, rfl, .inr ?_⟩
      simpa using List.mem_of_find?_eq_some hd
  · rw [hx, Option.some_or] at h
    exact ⟨x, rfl, .inl (Option.some.inj h)⟩

end Machine

/-! ## The look-up -/

namespace Lookup

variable {m : Machine} {paths : List String} {l : Locator}

lemma isPath_iff : isPath l = true ↔ '/' ∈ l.text.toList := List.contains_iff_mem

/-- The configured directories that exist can be handed on as one text, and there is a working
directory to hand on with them. -/
def Searchable (m : Machine) (paths : List String) : Prop :=
  ∀ d ∈ paths, m.isDirectory d = true → ':' ∉ d.toList ∧ m.workDirFault? = none

lemma searchable_insert {before after : List String} {d : String} :
    Searchable m (before ++ d :: after) ↔
      (m.isDirectory d = true → ':' ∉ d.toList ∧ m.workDirFault? = none) ∧
        Searchable m (before ++ after) := by
  simp only [Searchable, List.forall_mem_append, List.forall_mem_cons]
  exact and_left_comm

/-- Where the look-up can be made, it is a search through the directories that exist. -/
lemma searched_of_searchable (h : Searchable m paths) :
    searched m paths l = .ok (m.firstProgram? l.text (paths.filter m.isDirectory)) := by
  rw [searched]
  by_cases he : paths.filter m.isDirectory = []
  · simp only [he, List.isEmpty_nil, if_true]
    rfl
  · have hw : ∀ d ∈ paths.filter m.isDirectory, ':' ∉ d.toList ∧ m.workDirFault? = none :=
      fun d hd => h d (List.mem_filter.1 hd).1 (List.mem_filter.1 hd).2
    obtain ⟨d, hd⟩ := List.exists_mem_of_ne_nil _ he
    rcases hj : Machine.joinDirectories? (paths.filter m.isDirectory) with _ | list
    · obtain ⟨x, hx, hc⟩ := Machine.joinDirectories?_eq_none_iff.1 hj
      exact absurd hc (hw x hx).1
    · simp only [List.isEmpty_iff, he, if_false, (hw d hd).2,
        Machine.splitDirectories_of_join he hj]

/-- Where it cannot be made, the reason is a separator or else that there is no working
directory. -/
lemma searched_of_not_searchable (h : ¬Searchable m paths) :
    ∃ reason, searched m paths l = .error (.lookup l reason) ∧
      ((∃ d ∈ paths, m.isDirectory d = true ∧ ':' ∈ d.toList) →
        reason = separatorReason) ∧
      ((∀ d ∈ paths, ':' ∉ d.toList) → ∃ f, m.workDirFault? = some f ∧ reason = f.message) := by
  simp only [Searchable, not_forall] at h
  obtain ⟨d, hd, hdir, hf⟩ := h
  have he : (paths.filter m.isDirectory).isEmpty = false := by
    rw [List.isEmpty_eq_false_iff_exists_mem]
    exact ⟨d, List.mem_filter.2 ⟨hd, hdir⟩⟩
  simp only [searched, he, Bool.false_eq_true, if_false]
  rcases hj : Machine.joinDirectories? (paths.filter m.isDirectory) with _ | list
  · obtain ⟨x, hx, hc⟩ := Machine.joinDirectories?_eq_none_iff.1 hj
    exact ⟨_, rfl, fun _ => rfl, fun hn => absurd hc (hn x (List.mem_filter.1 hx).1)⟩
  · have hc : ∀ x ∈ paths, m.isDirectory x = true → ':' ∉ x.toList := by
      have hn : Machine.joinDirectories? (paths.filter m.isDirectory) ≠ none := by
        rw [hj]; exact Option.some_ne_none list
      rw [Ne, Machine.joinDirectories?_eq_none_iff] at hn
      exact fun x hx hxd hxc => hn ⟨x, List.mem_filter.2 ⟨hx, hxd⟩, hxc⟩
    rcases hw : m.workDirFault? with _ | f
    · exact absurd ⟨hc d hd hdir, hw⟩ hf
    · refine ⟨f.message, rfl, ?_, fun _ => ⟨f, rfl, rfl⟩⟩
      rintro ⟨x, hx, hxd, hxc⟩
      exact absurd hxc (hc x hx hxd)

/-- What a name comes to when no directory holds its program: it is not found, or, where the
environment lists no directories, it could not be looked up. -/
def absence (m : Machine) (l : Locator) : ResolveError :=
  if m.searchPath?.isSome then .notFound l else .lookup l noPathReason

/-- The program of a name is found by one search, through the configured directories that exist and
then through those of the machine. -/
lemma program_of_searchable (hl : '/' ∉ l.text.toList) (h : Searchable m paths) :
    program m paths l =
      match m.firstProgram? l.text (paths.filter m.isDirectory ++ m.searchPath?.getD []) with
      | some path => .ok path
      | none => .error (absence m l) := by
  rw [program, if_neg (mt isPath_iff.1 hl), searched_of_searchable h,
    Machine.firstProgram?_append, absence]
  rcases m.firstProgram? l.text (paths.filter m.isDirectory) with _ | p
  · rcases m.searchPath? with _ | dirs
    · rfl
    · rw [Option.none_or]
      rfl
  · rfl

/-- A name leads to nothing where the look-up cannot be made. -/
lemma program_of_not_searchable (hl : '/' ∉ l.text.toList) (h : ¬Searchable m paths) :
    ∃ reason, program m paths l = .error (.lookup l reason) ∧
      ((∃ d ∈ paths, m.isDirectory d = true ∧ ':' ∈ d.toList) →
        reason = separatorReason) ∧
      ((∀ d ∈ paths, ':' ∉ d.toList) → ∃ f, m.workDirFault? = some f ∧ reason = f.message) := by
  obtain ⟨reason, hs, hr⟩ := searched_of_not_searchable (l := l) h
  refine ⟨reason, ?_, hr⟩
  rw [program, if_neg (mt isPath_iff.1 hl), hs]
  rfl

/-- Without a working directory a name leads to nothing as soon as one configured directory is
there, and the reason is the fault of asking for the working directory. -/
lemma program_of_workDirFault {f : IoFault} (hl : '/' ∉ l.text.toList)
    (hc : ∀ d ∈ paths, ':' ∉ d.toList) (hf : m.workDirFault? = some f)
    (hd : ∃ d ∈ paths, m.isDirectory d = true) :
    program m paths l = .error (.lookup l f.message) := by
  have hs : ¬Searchable m paths := by
    obtain ⟨d, hd, hdir⟩ := hd
    intro hs
    have hn := (hs d hd hdir).2
    rw [hf] at hn
    cases hn
  obtain ⟨reason, he, -, hr⟩ := program_of_not_searchable hl hs
  obtain ⟨g, hg, rfl⟩ := hr hc
  rw [hf] at hg
  cases hg
  exact he

lemma searchable_of_program {p : String} (hl : '/' ∉ l.text.toList)
    (h : program m paths l = .ok p) : Searchable m paths := by
  by_contra hs
  obtain ⟨reason, he, -⟩ := program_of_not_searchable hl hs
  rw [he] at h
  cases h

/-- One more directory in which the look-up can be made only adds its own program. -/
lemma program_insert {before after : List String} {d p : String} (hl : '/' ∉ l.text.toList)
    (h : program m (before ++ after) l = .ok p)
    (hd : m.isDirectory d = true → ':' ∉ d.toList ∧ m.workDirFault? = none) :
    ∃ q, program m (before ++ d :: after) l = .ok q ∧
      (q = p ∨ m.isDirectory d = true ∧ q = m.candidate l.text d) := by
  have hs := searchable_of_program hl h
  rw [program_of_searchable hl hs, List.filter_append, List.append_assoc] at h
  rw [program_of_searchable hl (searchable_insert.2 ⟨hd, hs⟩), List.filter_append,
    List.filter_cons, List.append_assoc]
  by_cases hm : m.isDirectory d = true
  · rw [if_pos hm, List.cons_append]
    split at h
    · rename_i x hx
      cases h
      obtain ⟨q, hq, hqp⟩ := Machine.firstProgram?_insert d hx
      rw [hq]
      exact ⟨q, rfl, hqp.imp_right fun hc => ⟨hm, hc⟩⟩
    · cases h
  · rw [if_neg hm]
    exact ⟨p, h, .inl rfl⟩

/-- A path leads to itself, whatever is configured. -/
lemma program_of_path (hl : '/' ∈ l.text.toList) : program m paths l = atPath m l := by
  rw [program, if_pos (isPath_iff.2 hl)]

lemma atPath_of_hasProgram (h : m.HasProgram l.text) : atPath m l = .ok l.text := by
  have hf : m.HasFile l.text := by
    obtain ⟨p, e, he, hfile, -⟩ := h
    exact ⟨p, e, he, hfile⟩
  simp only [atPath, Machine.isFile_iff.2 hf, Machine.isProgram_iff.2 h, Bool.not_true,
    Bool.false_eq_true, if_false]

lemma atPath_of_not_hasFile (h : ¬m.HasFile l.text) : atPath m l = .error (.notFound l) := by
  simp only [atPath, Bool.eq_false_iff.2 (mt Machine.isFile_iff.1 h), Bool.not_false, if_true]

lemma atPath_of_not_hasProgram (hf : m.HasFile l.text) (h : ¬m.HasProgram l.text) :
    atPath m l = .error (.notExecutable l.text) := by
  simp only [atPath, Machine.isFile_iff.2 hf, Bool.eq_false_iff.2 (mt Machine.isProgram_iff.1 h),
    Bool.not_true, Bool.not_false, Bool.false_eq_true, if_false, if_true]

end Lookup

/-! ## The resolver -/

section Resolving

variable {τ : Type} {paths : List String} {l : Locator} {w : World τ}

lemma programResolver_of_ok {p : String} (h : Lookup.program w.machine paths l = .ok p) :
    programResolver τ paths l w = (.done (programHandle τ p), w) := by
  rw [programResolver_apply, h]
  rfl

lemma programResolver_of_error {e : ResolveError}
    (h : Lookup.program w.machine paths l = .error e) :
    programResolver τ paths l w = (.failed e, w) := by
  rw [programResolver_apply, h]
  rfl

lemma exists_of_programResolver_done {h : Handle τ}
    (hr : programResolver τ paths l w = (.done h, w)) :
    ∃ p, Lookup.program w.machine paths l = .ok p ∧ h = programHandle τ p := by
  rcases hp : Lookup.program w.machine paths l with e | p
  · rw [programResolver_of_error hp] at hr
    cases hr
  · rw [programResolver_of_ok hp] at hr
    cases hr
    exact ⟨p, rfl, rfl⟩

end Resolving

namespace Tools

/-- Four directories with something called `probe`: a file that may not be executed, a directory,
and two programs. -/
def machine : Machine :=
  Machine.fresh.addFile "plain/probe" 0o644 [] |>.addDirectory "nested/probe"
    |>.addFile "first/probe" 0o755 [] |>.addFile "second/probe" 0o755 []

def world : World Unit := { machine, ambient := () }

def paths : List String := ["missing", "plain", "nested", "first", "second"]

def tool : Locator := ⟨"probe", by decide⟩

def env : Locator := ⟨"env", by decide⟩

/-- The same files for a process whose environment lists no directories. -/
def unlisted : World Unit := { world with machine := { machine with environment := [] } }

/-- The same files for a process whose working directory has been removed. -/
def removed : World Unit := { world with machine := { machine with workDir := ["removed"] } }

end Tools

section Inserting

variable {τ : Type} {before after : List String} {d : String} {l : Locator} {w : World τ}
  {h : Handle τ}

/-- **What one more directory does.**  Let a name be resolved to a program, and let one more
directory be configured, at any place among the others.  The name is still resolved exactly if the
directory does not exist, or else has no colon in its path and the working directory is there; and
then it is resolved to the program that it was resolved to before, or to the one that the new
directory holds.  An existing directory with a colon makes the look-up impossible, even of what the
other directories hold. -/
theorem programResolver_insert (hl : '/' ∉ l.text.toList)
    (hr : programResolver τ (before ++ after) l w = (.done h, w)) :
    ((∃ k, programResolver τ (before ++ d :: after) l w = (.done k, w)) ↔
      (w.machine.isDirectory d = true → ':' ∉ d.toList ∧ w.machine.workDirFault? = none)) ∧
    (∀ k, programResolver τ (before ++ d :: after) l w = (.done k, w) →
      k = h ∨ w.machine.isDirectory d = true ∧
        k = programHandle τ (w.machine.candidate l.text d)) ∧
    (w.machine.isDirectory d = true → ':' ∈ d.toList →
      programResolver τ (before ++ d :: after) l w =
        (.failed (.lookup l Lookup.separatorReason), w)) := by
  obtain ⟨p, hp, rfl⟩ := exists_of_programResolver_done hr
  have hs := Lookup.searchable_of_program hl hp
  refine ⟨⟨?_, fun hd => ?_⟩, fun k hk => ?_, fun hd hc => ?_⟩
  · rintro ⟨k, hk⟩
    obtain ⟨q, hq, -⟩ := exists_of_programResolver_done hk
    exact (Lookup.searchable_insert.1 (Lookup.searchable_of_program hl hq)).1
  · obtain ⟨q, hq, -⟩ := Lookup.program_insert hl hp hd
    exact ⟨_, programResolver_of_ok hq⟩
  · obtain ⟨q, hq, rfl⟩ := exists_of_programResolver_done hk
    have hd := (Lookup.searchable_insert.1 (Lookup.searchable_of_program hl hq)).1
    obtain ⟨q', hq', ho⟩ := Lookup.program_insert hl hp hd
    rw [hq] at hq'
    cases hq'
    exact ho.imp (congrArg _) fun ho => ⟨ho.1, congrArg _ ho.2⟩
  · have hn : ¬Lookup.Searchable w.machine (before ++ d :: after) := fun hn =>
      ((Lookup.searchable_insert.1 hn).1 hd).1 hc
    obtain ⟨reason, he, hreason, -⟩ := Lookup.program_of_not_searchable hl hn
    rw [hreason ⟨d, by simp, hd, hc⟩] at he
    exact programResolver_of_error he

end Inserting

open Tools in
/-- With a third program between the others a tool is still found, and it is the new one. -/
theorem programResolver_insert_tool :
    '/' ∉ tool.text.toList ∧
      programResolver Unit (["plain", "missing"] ++ ["second"]) tool world =
        (.done (programHandle Unit "second/probe"), world) ∧
      ∃ k, programResolver Unit (["plain", "missing"] ++ "first" :: ["second"]) tool world =
          (.done k, world) ∧
        (k = programHandle Unit "second/probe" ∨ k = programHandle Unit "first/probe") := by
  have hr : programResolver Unit (["plain", "missing"] ++ ["second"]) tool world =
      (.done (programHandle Unit "second/probe"), world) :=
    programResolver_of_ok (by decide +kernel)
  obtain ⟨hi, hk, -⟩ := programResolver_insert (d := "first") (by decide) hr
  obtain ⟨k, hf⟩ := hi.2 fun _ => ⟨by decide, by decide +kernel⟩
  refine ⟨by decide, hr, k, hf, (hk k hf).imp_right ?_⟩
  rintro ⟨-, rfl⟩
  exact congrArg _ (by decide +kernel)

/-- A machine with an empty directory whose path holds a colon. -/
def colonWorld : World Unit := { machine := Machine.fresh.addDirectory "a:b", ambient := () }

/-- So it is not true that search directories only add candidates: an empty one hides the programs
of the machine, if there is a colon in its path. -/
theorem not_programResolver_insert :
    ¬∀ (before after : List String) (d : String) (l : Locator) (w : World Unit) (h : Handle Unit),
      '/' ∉ l.text.toList → programResolver Unit (before ++ after) l w = (.done h, w) →
      ∃ k, programResolver Unit (before ++ d :: after) l w = (.done k, w) := by
  intro hall
  have hr : programResolver Unit ([] ++ []) ⟨"true", by decide⟩ colonWorld =
      (.done (programHandle Unit "/usr/bin/true"), colonWorld) :=
    programResolver_of_ok (by decide +kernel)
  obtain ⟨k, hk⟩ := hall [] [] "a:b" _ colonWorld _ (by decide) hr
  have he : Lookup.program colonWorld.machine ["a:b"] ⟨"true", by decide⟩ =
      .error (.lookup ⟨"true", by decide⟩ Lookup.separatorReason) := by
    decide +kernel
  rw [List.nil_append, programResolver_of_error he] at hk
  cases hk

end BenchRoster
