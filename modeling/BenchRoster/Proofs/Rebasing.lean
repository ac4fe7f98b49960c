/-
# Configurations in files

A configuration in a file is the one that its text describes, with relative search directories taken
from the directory of the file.  The parent of a path is cut off as a text, while a path is walked
piece by piece; so what has to be shown is that the parent leads to the directory that the walk to
the file passes last, and that a search directory which is joined to it goes on from there.

* `Path.exists_parent` says what the parent of a path with a name at its end is: it begins as the
  path does, and makes all its steps but the last;
* `FileSystem.walk_filter` says that only the steps of a path count, and `FileSystem.walk_append`
  that a walk goes on where its first part has led;
* `Config.walk_rebaseDirectory` follows a search directory of a file;
* `Config.ofFile_rebased` says how a configuration in a file and that of its text are related.
-/
import BenchRoster.Config.File
import BenchRoster.Proofs.Decoding
import BenchRoster.Proofs.Places
import BenchRoster.Proofs.WellFormed
import Mathlib.Data.List.Forall2

namespace BenchRoster

/-! ## The parent of a path -/

namespace Path

/-- The piece leads somewhere: it is neither without characters nor a full stop. -/
def leads (c : String) : Bool := c ≠ "" ∧ c ≠ "."

lemma leads_eq_false_iff {c : String} : leads c = false ↔ c = "" ∨ c = "." := by
  simp [leads, or_iff_not_imp_left]

/-- The pieces of a path that lead somewhere. -/
def steps (p : String) : List String := (pieces p).filter leads

lemma pieces_ofList_append_slash (as bs : List Char) :
    pieces (String.ofList (as ++ '/' :: bs)) =
      pieces (String.ofList as) ++ pieces (String.ofList bs) := by
  simp only [pieces, String.toList_ofList, split_append_slash, List.map_append]

lemma steps_ofList_append_slash (as bs : List Char) :
    steps (String.ofList (as ++ '/' :: bs)) =
      steps (String.ofList as) ++ steps (String.ofList bs) := by
  rw [steps, pieces_ofList_append_slash, List.filter_append]
  rfl

/-- What is dropped from the end of a parent leads nowhere. -/
lemma steps_dropFillers (lead : ℕ) (cs : List Char) :
    steps (String.ofList (dropFillers lead cs).reverse) = steps (String.ofList cs.reverse) := by
  have hslash (ds : List Char) :
      steps (String.ofList ('/' :: ds).reverse) = steps (String.ofList ds.reverse) := by
    rw [List.reverse_cons, steps_ofList_append_slash]
    exact List.append_nil _
  have hdot (ds : List Char) :
      steps (String.ofList ('.' :: '/' :: ds).reverse) = steps (String.ofList ds.reverse) := by
    rw [List.reverse_cons, List.reverse_cons, List.append_assoc, List.singleton_append,
      steps_ofList_append_slash]
    exact List.append_nil _
  fun_induction dropFillers lead cs with
  | case1 ds h ih => rw [ih, hslash]
  | case2 ds h => rfl
  | case3 ds h ih => rw [ih, hdot]
  | case4 ds h h' => rw [hslash, hdot]
  | case5 ds h h' => rfl
  | case6 ds h h' => rfl

lemma dropFillers_suffix (lead : ℕ) (cs : List Char) : dropFillers lead cs <:+ cs := by
  fun_induction dropFillers lead cs with
  | case1 ds h ih => exact ih.trans (List.suffix_cons ..)
  | case2 ds h => exact List.suffix_rfl
  | case3 ds h ih => exact ih.trans ((List.suffix_cons ..).trans (List.suffix_cons ..))
  | case4 ds h h' => exact List.suffix_cons ..
  | case5 ds h h' => exact List.suffix_rfl
  | case6 ds h h' => exact List.suffix_rfl

/-- A parent is what a path begins with. -/
lemma dropFillers_reverse_isPrefix (lead : ℕ) (cs : List Char) :
    (dropFillers lead cs.reverse).reverse <+: cs := by
  have h := List.reverse_prefix.2 (dropFillers_suffix lead cs.reverse)
  rwa [List.reverse_reverse] at h

/-- The kept lead is not dropped. -/
lemma le_length_dropFillers {lead : ℕ} {cs : List Char} (h : lead ≤ cs.length) :
    lead ≤ (dropFillers lead cs).length := by
  fun_induction dropFillers lead cs with
  | case1 ds hd ih => exact ih hd
  | case2 ds h' => exact h
  | case3 ds hd ih => exact ih hd
  | case4 ds h h' => simp [h']
  | case5 ds h' h'' => exact h
  | case6 ds h' h'' => exact h

/-- The characters of a piece that leads somewhere. -/
structure Step (name : List Char) : Prop where
  no_slash : '/' ∉ name
  ne_nil : name ≠ []
  ne_dot : name ≠ ['.']

lemma Step.reverse {name : List Char} (h : Step name) : Step name.reverse where
  no_slash := by simpa using h.no_slash
  ne_nil := by simpa using h.ne_nil
  ne_dot := by simpa using h.ne_dot

section Name

variable {front name : List Char}

/-- Nothing is dropped where a piece ends that leads somewhere. -/
lemma dropFillers_step (h : Step name) (lead : ℕ) (ds : List Char) :
    dropFillers lead (name ++ ds) = name ++ ds := by
  obtain ⟨hs, hne, hd⟩ := h
  rcases name with _ | ⟨c, _ | ⟨c', name⟩⟩
  · contradiction
  · have hc : c ≠ '/' := fun h => hs (by simp [h])
    have hc' : c ≠ '.' := fun h => hd (by rw [h])
    unfold dropFillers
    split
    · simp_all
    · simp_all
    · rfl
  · have hc : c ≠ '/' := fun h => hs (by simp [h])
    have hc' : c' ≠ '/' := fun h => hs (by simp [h])
    unfold dropFillers
    split
    · simp_all
    · simp_all
    · rfl

/-- The kept lead stands in front of the last piece. -/
lemma keptLead_le (h : Step name) : keptLead (front ++ name) ≤ front.length := by
  obtain ⟨hs, hne, hd⟩ := h
  rcases front with _ | ⟨c, front⟩
  · rw [List.nil_append, List.length_nil, Nat.le_zero]
    unfold keptLead
    split
    · simp at hs
    · contradiction
    · simp at hs
    · rfl
  · rw [List.length_cons]
    unfold keptLead
    split <;> omega

/-- The parent of a path whose last piece leads somewhere. -/
lemma parent?_step (h : Step name) (hf : front = [] ∨ ∃ ds, front = ds ++ ['/']) :
    parent? (String.ofList (front ++ name)) =
      some (String.ofList
        (dropFillers (keptLead (front ++ name)) front.reverse).reverse) := by
  have hlead : keptLead (front ++ name) ≤ front.length := keptLead_le h
  have hlen : 0 < name.length := List.length_pos_of_ne_nil h.ne_nil
  have hbody : dropFillers (keptLead (front ++ name)) (front ++ name).reverse =
      name.reverse ++ front.reverse := by
    rw [List.reverse_append]
    exact dropFillers_step h.reverse _ _
  have htake : (name.reverse ++ front.reverse).takeWhile (· != '/') = name.reverse := by
    have hname : ∀ c ∈ name.reverse, (c != '/') = true := by
      intro c hc
      rw [bne_iff_ne]
      rintro rfl
      exact h.no_slash (List.mem_reverse.1 hc)
    rw [List.takeWhile_append_of_pos hname]
    rcases hf with rfl | ⟨ds, rfl⟩ <;> simp
  unfold parent?
  dsimp only
  rw [String.toList_ofList, hbody, htake, if_neg ?_]
  · rw [List.length_reverse, List.length_append, List.length_reverse, List.length_reverse,
      Nat.min_eq_left (by omega), ← List.length_reverse, List.drop_left]
  · simp only [List.length_append, List.length_reverse]
    omega

/-- The parent begins as the path does. -/
lemma head_dropFillers (h : Step name) :
    (((dropFillers (keptLead (front ++ name)) front.reverse).reverse).head? == some '/') =
      ((front ++ name).head? == some '/') := by
  have hlead : keptLead (front ++ name) ≤ front.reverse.length := by
    rw [List.length_reverse]
    exact keptLead_le h
  have hlen := le_length_dropFillers hlead
  have hpre := dropFillers_reverse_isPrefix (keptLead (front ++ name)) front
  rcases hb : (dropFillers (keptLead (front ++ name)) front.reverse).reverse with _ | ⟨c, ds⟩
  · -- nothing of an absolute path is left only if there is no lead to keep
    have hzero : keptLead (front ++ name) = 0 := by
      rw [List.reverse_eq_nil_iff.1 hb] at hlen
      exact Nat.le_zero.1 hlen
    rcases hc : front ++ name with _ | ⟨c, cs⟩
    · rfl
    · have hslash : c ≠ '/' := by
        rintro rfl
        rw [hc] at hzero
        cases hzero
      simp [hslash]
  · obtain ⟨es, rfl⟩ := hb ▸ hpre
    rfl

end Name

/-- A path is what stands behind its last slash, with the rest in front of it. -/
lemma exists_front (cs : List Char) :
    ∃ front name, cs = front ++ name ∧ '/' ∉ name ∧ (front = [] ∨ ∃ ds, front = ds ++ ['/']) := by
  induction cs with
  | nil => exact ⟨[], [], rfl, by simp, .inl rfl⟩
  | cons c cs ih =>
    obtain ⟨front, name, rfl, hs, rfl | ⟨ds, rfl⟩⟩ := ih
    · by_cases hc : c = '/'
      · exact ⟨['/'], name, by simp [hc], hs, .inr ⟨[], rfl⟩⟩
      · exact ⟨[], c :: name, rfl, by simp [Ne.symm hc, hs], .inl rfl⟩
    · exact ⟨c :: ds ++ ['/'], name, rfl, hs, .inr ⟨c :: ds, rfl⟩⟩

/-- Cutting a path in front of its last piece leaves the pieces before it. -/
lemma exists_front_of_pieces {p c : String} {cs : List String} (h : pieces p = cs ++ [c]) :
    ∃ front name, p = String.ofList (front ++ name) ∧ c = String.ofList name ∧ '/' ∉ name ∧
      (front = [] ∨ ∃ ds, front = ds ++ ['/']) ∧
      steps (String.ofList front) = cs.filter leads := by
  obtain ⟨front, name, hp, hs, hf⟩ := exists_front p.toList
  obtain rfl : p = String.ofList (front ++ name) := by rw [← hp, String.ofList_toList]
  have hname : pieces (String.ofList name) = [String.ofList name] := by
    rw [pieces, String.toList_ofList, split_of_no_slash hs]
    rfl
  refine ⟨front, name, rfl, ?_⟩
  rcases hf with rfl | ⟨ds, rfl⟩
  · rw [List.nil_append, hname, ← List.nil_append [String.ofList name]] at h
    obtain ⟨rfl, hc⟩ := List.append_inj' h rfl
    exact ⟨(List.cons.inj hc).1.symm, hs, .inl rfl, rfl⟩
  · rw [List.append_assoc, List.singleton_append, pieces_ofList_append_slash, hname] at h
    obtain ⟨rfl, hc⟩ := List.append_inj' h rfl
    refine ⟨(List.cons.inj hc).1.symm, hs, .inr ⟨ds, rfl⟩, ?_⟩
    rw [steps_ofList_append_slash]
    exact List.append_nil _

lemma step_of_leads {name : List Char} (hs : '/' ∉ name)
    (h : leads (String.ofList name) = true) : Step name := by
  refine ⟨hs, ?_, ?_⟩
  · rintro rfl
    cases h
  · rintro rfl
    revert h
    decide +kernel

/-- A path whose last piece leads somewhere has a parent: it begins as the path does, and makes the
steps before the last one. -/
lemma exists_parent {p c : String} {cs : List String} (h : pieces p = cs ++ [c])
    (hc : leads c = true) :
    ∃ b, parent? p = some b ∧ steps b = cs.filter leads ∧ isAbsolute b = isAbsolute p ∧
      b.toList <+: p.toList := by
  obtain ⟨front, name, rfl, rfl, hs, hf, hsteps⟩ := exists_front_of_pieces h
  have hname := step_of_leads hs hc
  refine ⟨_, parent?_step hname hf, ?_, ?_, ?_⟩
  · rw [steps_dropFillers, List.reverse_reverse, hsteps]
  · rw [isAbsolute, isAbsolute, String.toList_ofList, String.toList_ofList,
      head_dropFillers hname]
  · rw [String.toList_ofList, String.toList_ofList]
    exact (dropFillers_reverse_isPrefix _ front).trans (List.prefix_append ..)

end Path

/-! ## Walks that pass over pieces -/

namespace FileSystem

variable {fs : FileSystem} {here q : Place} {c : String} {cs ds : List String}

lemma walk_cons_eq_ok_iff :
    fs.walk here (c :: cs) = .ok q ↔
      fs.entry? here = some .directory ∧ c.utf8ByteSize ≤ maxNameBytes ∧
        fs.walk (further here c) cs = .ok q := by
  simp only [walk_eq_ok_iff, visited, List.forall_mem_cons, List.foldl_cons]
  tauto

/-- A walk to a directory begins in one. -/
lemma directory_of_walk (h : fs.walk here cs = .ok q) (hq : fs.entry? q = some .directory) :
    fs.entry? here = some .directory := by
  rcases cs with _ | ⟨c, cs⟩
  · cases h
    exact hq
  · exact (walk_cons_eq_ok_iff.1 h).1

/-- On the way to a directory only the pieces count that lead somewhere. -/
lemma walk_filter (hq : fs.entry? q = some .directory) :
    fs.walk here (cs.filter Path.leads) = .ok q ↔ fs.walk here cs = .ok q := by
  induction cs generalizing here with
  | nil => rfl
  | cons c cs ih =>
    rcases hc : Path.leads c with _ | _
    · have hl := Path.leads_eq_false_iff.1 hc
      have hf : further here c = here := if_pos hl
      have hs : c.utf8ByteSize ≤ maxNameBytes := by rcases hl with rfl | rfl <;> decide
      rw [List.filter_cons_of_neg (by simp [hc]), ih, walk_cons_eq_ok_iff, hf]
      exact ⟨fun h => ⟨directory_of_walk h hq, hs, h⟩, fun h => h.2.2⟩
    · rw [List.filter_cons_of_pos hc, walk_cons_eq_ok_iff, walk_cons_eq_ok_iff, ih]

lemma walk_cons (he : fs.entry? here = some .directory) (hc : c.utf8ByteSize ≤ maxNameBytes) :
    fs.walk here (c :: cs) = fs.walk (further here c) cs := by
  rw [walk, he]
  dsimp only
  rw [if_neg (Nat.not_lt.2 hc), further]
  split
  · rfl
  · split <;> rfl

/-- A walk goes on where its first part has led. -/
lemma walk_append (h : fs.walk here cs = .ok q) : fs.walk here (cs ++ ds) = fs.walk q ds := by
  induction cs generalizing here with
  | nil =>
    cases h
    rfl
  | cons c cs ih =>
    obtain ⟨he, hc, hw⟩ := walk_cons_eq_ok_iff.1 h
    rw [List.cons_append, walk_cons he hc, ih hw]

/-- A walk that goes well has led somewhere before its last piece. -/
lemma exists_of_walk_concat {p : Place} (h : fs.walk here (cs ++ [c]) = .ok p) :
    ∃ q, fs.walk here cs = .ok q ∧ fs.entry? q = some .directory ∧ further q c = p := by
  obtain ⟨hv, hl, hp⟩ := walk_eq_ok_iff.1 h
  rw [visited_append] at hv
  have hq : fs.walk here cs = .ok (cs.foldl further here) :=
    walk_eq_ok_iff.2 ⟨fun v hm => hv v (List.mem_append_left _ hm),
      fun d hd => hl d (List.mem_append_left _ hd), rfl⟩
  rw [walk_append hq] at h
  obtain ⟨he, -, hf⟩ := walk_cons_eq_ok_iff.1 h
  exact ⟨_, hq, he, Except.ok.inj hf⟩

/-- A path to anything but a directory goes through a directory and ends in a piece that leads
somewhere. -/
lemma exists_of_find {wd p : Place} {e : Entry} {path : String}
    (h : fs.find wd path = .ok (p, e)) (he : e ≠ .directory) :
    ∃ cs c q, Path.pieces path = cs ++ [c] ∧ Path.leads c = true ∧
      fs.walk (origin wd path) cs = .ok q ∧ fs.entry? q = some .directory ∧ further q c = p := by
  obtain ⟨ht, hp⟩ := find_eq_ok_iff.1 h
  obtain ⟨-, -, -, hw⟩ := target_eq_ok_iff.1 ht
  rcases List.eq_nil_or_concat' (Path.pieces path) with hnil | ⟨cs, c, hcs⟩
  · exact absurd (List.map_eq_nil_iff.1 hnil) (Path.split_ne_nil _)
  · rw [hcs] at hw
    obtain ⟨q, hq, hd, rfl⟩ := exists_of_walk_concat hw
    refine ⟨cs, c, q, hcs, ?_, hq, hd, rfl⟩
    by_contra hc
    have hl := Path.leads_eq_false_iff.1 (Bool.eq_false_iff.2 hc)
    rw [further, if_pos hl, hd] at hp
    exact he (Option.some.inj hp).symm

/-- The directory above a place. -/
lemma Closed.directory_dropLast (h : fs.Closed) (hq : fs.entry? q = some .directory) :
    fs.entry? q.dropLast = some .directory := by
  rcases List.eq_nil_or_concat' q with rfl | ⟨ds, c, rfl⟩
  · exact hq
  · rw [List.dropLast_concat]
    exact h ds c (by rw [hq]; rfl)

/-- Where there are no holes, what is no directory is in the directory that its path goes through
last. -/
lemma Closed.dropLast_further (h : fs.Closed) {e : Entry} (hc : Path.leads c = true)
    (hq : fs.entry? q = some .directory) (he : fs.entry? (further q c) = some e)
    (hne : e ≠ .directory) : (further q c).dropLast = q := by
  have hl : ¬(c = "" ∨ c = ".") := mt Path.leads_eq_false_iff.2 (by simp [hc])
  rw [further, if_neg hl] at he ⊢
  split
  · rename_i hp
    rw [if_pos hp, h.directory_dropLast hq] at he
    exact absurd (Option.some.inj he).symm hne
  · exact List.dropLast_concat ..

/-- A path that is written behind something else leads where it leads alone, if the walks do. -/
lemma target_append {wd : Place} {u s : String} (hu : '\x00' ∉ u.toList) (hs : s ≠ "")
    (hl : (u ++ s).utf8ByteSize < maxPathBytes)
    (hw : fs.walk (origin wd (u ++ s)) (Path.pieces (u ++ s)) =
      fs.walk (origin q s) (Path.pieces s)) :
    fs.target wd (u ++ s) = fs.target q s := by
  have hs' : s.utf8ByteSize < maxPathBytes := by
    rw [String.utf8ByteSize_append] at hl
    omega
  have h0 : (u ++ s).toList.contains '\x00' = s.toList.contains '\x00' := by
    simp [String.toList_append, hu]
  have hne : (u ++ s).isEmpty = false := by simp [hs]
  have hne' : s.isEmpty = false := by simp [hs]
  rw [target, target, h0, hne, hne', if_neg (Nat.not_le.2 hl), if_neg (Nat.not_le.2 hs')]
  simp only [origin] at hw
  rw [hw]

end FileSystem

/-! ## Search directories of a file -/

namespace Config

section Directory

variable {path s : String}

/-- A relative search directory is joined to the parent of the file. -/
lemma rebaseDirectory_of_parent {d : String} (hs : Path.isAbsolute s = false)
    (hp : Path.parent? path = some d) (hd : d ≠ "") :
    rebaseDirectory (Path.directory? path) s = Path.join d s := by
  have hb : Path.directory? path = some d := by
    rw [Path.directory?, hp]
    simpa using hd
  simp [rebaseDirectory, hb, Path.isRelative, hs]

/-- Without a parent to join it to it stays as it is. -/
lemma rebaseDirectory_of_bare (hp : ∀ d, Path.parent? path = some d → d = "") :
    rebaseDirectory (Path.directory? path) s = s := by
  have hb : Path.directory? path = none := by
    rw [Path.directory?]
    rcases h : Path.parent? path with _ | d
    · rfl
    · simp [hp d h]
  rw [hb]
  rfl

/-- An absolute one does so in any case. -/
lemma rebaseDirectory_of_absolute (hs : Path.isAbsolute s = true) (base : Option String) :
    rebaseDirectory base s = s := by
  cases base with
  | none => rfl
  | some b => simp [rebaseDirectory, Path.isRelative, hs]

end Directory

/-- A search directory of a file leads where the written one leads from the file's directory. -/
lemma walk_rebaseDirectory {fs : FileSystem} {wd q : Place} {path c : String} {cs : List String}
    (hp : Path.pieces path = cs ++ [c]) (hc : Path.leads c = true)
    (hw : fs.walk (FileSystem.origin wd path) cs = .ok q)
    (hq : fs.entry? q = some .directory) (s : String) :
    fs.walk (FileSystem.origin wd (rebaseDirectory (Path.directory? path) s))
        (Path.pieces (rebaseDirectory (Path.directory? path) s)) =
      fs.walk (FileSystem.origin q s) (Path.pieces s) := by
  obtain ⟨b, hb, hsteps, habs, -⟩ := Path.exists_parent hp hc
  rcases hs : Path.isAbsolute s with _ | _
  · have hqs : FileSystem.origin q s = q := by simp [FileSystem.origin, hs]
    -- the steps of the parent lead where those of the file have led before the last one
    have hbw : fs.walk (FileSystem.origin wd b) (Path.steps b) = .ok q := by
      rw [hsteps, FileSystem.origin, habs]
      exact (FileSystem.walk_filter hq).2 hw
    by_cases hbe : b = ""
    · subst hbe
      have hwd : wd = q := Except.ok.inj hbw
      have hbare : ∀ d, Path.parent? path = some d → d = "" := by
        intro d hd
        exact (Option.some.inj (hb.symm.trans hd)).symm
      rw [rebaseDirectory_of_bare hbare, hqs, ← hwd]
      simp [FileSystem.origin, hs]
    · obtain ⟨ds, hj, hds⟩ := Path.pieces_join_relative hbe hs
      have hf : Path.steps b = ds.filter Path.leads := by
        rw [Path.steps]
        rcases hds with hds | hds
        · rw [hds]
        · rw [hds, List.filter_append]
          exact List.append_nil _
      rw [hf] at hbw
      have hdw := (FileSystem.walk_filter hq).1 hbw
      rw [rebaseDirectory_of_parent hs hb hbe, hj, FileSystem.origin,
        Path.isAbsolute_join_relative hbe hs, hqs]
      exact FileSystem.walk_append hdw
  · rw [rebaseDirectory_of_absolute hs]
    simp [FileSystem.origin, hs]

/-- A search directory of a file is written behind something that comes from the file's path. -/
lemma exists_rebaseDirectory_eq {path c : String} {cs : List String}
    (hp : Path.pieces path = cs ++ [c]) (hc : Path.leads c = true)
    (h0 : '\x00' ∉ path.toList) (s : String) :
    ∃ u : String, rebaseDirectory (Path.directory? path) s = u ++ s ∧ '\x00' ∉ u.toList := by
  obtain ⟨b, hb, -, -, hpre⟩ := Path.exists_parent hp hc
  have hb0 : '\x00' ∉ b.toList := fun h => h0 (hpre.subset h)
  have hnone : rebaseDirectory (Path.directory? path) s = s →
      ∃ u : String, rebaseDirectory (Path.directory? path) s = u ++ s ∧ '\x00' ∉ u.toList :=
    fun h => ⟨"", by rw [h, String.empty_append], by simp⟩
  rcases hs : Path.isAbsolute s with _ | _
  · by_cases hbe : b = ""
    · subst hbe
      exact hnone (rebaseDirectory_of_bare fun d hd => (Option.some.inj (hb.symm.trans hd)).symm)
    · rw [rebaseDirectory_of_parent hs hb hbe, Path.join, hs]
      simp only [Bool.false_eq_true, if_false]
      split
      · exact ⟨b, rfl, hb0⟩
      · exact ⟨b ++ "/", rfl, by simp [String.toList_append, hb0]⟩
  · exact hnone (rebaseDirectory_of_absolute hs _)

/-- What a search directory `s` of the file becomes. -/
structure Rebased (m : Machine) (path s r : String) : Prop where
  of_absolute : Path.isAbsolute s = true → r = s
  of_relative : Path.isAbsolute s = false →
    ∀ d, Path.parent? path = some d → d ≠ "" → r = Path.join d s
  of_bare : Path.isAbsolute s = false → (∀ d, Path.parent? path = some d → d = "") → r = s
  /-- A file with an absolute path has absolute search directories. -/
  absolute : Path.isAbsolute path = true → Path.isAbsolute r = true
  /-- Where the file system has no holes, it leads from the working directory where the written one
  leads from the directory that the file is in. -/
  denotes : m.files.Closed → ∀ p, m.files.target m.workDir path = .ok p →
    m.files.walk (FileSystem.origin m.workDir r) (Path.pieces r) =
      m.files.walk (FileSystem.origin p.dropLast s) (Path.pieces s)
  /-- So it does as a path of the system, which may not be too long. -/
  target : m.files.Closed → ∀ p, m.files.target m.workDir path = .ok p →
    r.utf8ByteSize < FileSystem.maxPathBytes →
    m.files.target m.workDir r = m.files.target p.dropLast s

/-- The search directories of a file with an absolute path are absolute. -/
lemma isAbsolute_rebaseDirectory {path c s : String} {cs : List String}
    (hp : Path.pieces path = cs ++ [c]) (hc : Path.leads c = true)
    (h : Path.isAbsolute path = true) :
    Path.isAbsolute (rebaseDirectory (Path.directory? path) s) = true := by
  obtain ⟨b, hb, -, habs, -⟩ := Path.exists_parent hp hc
  have hne : b ≠ "" := by
    rintro rfl
    rw [← habs] at h
    cases h
  rcases hs : Path.isAbsolute s with _ | _
  · rw [rebaseDirectory_of_parent hs hb hne, Path.isAbsolute_join_relative hne hs, habs, h]
  · rw [rebaseDirectory_of_absolute hs, hs]

/-- The search directories of a file that can be read are rebased. -/
lemma rebased_rebaseDirectory {m : Machine} {path s : String} {p : Place} {e : Entry}
    (h : m.files.find m.workDir path = .ok (p, e)) (he : e ≠ .directory) (hs : s ≠ "") :
    Rebased m path s (rebaseDirectory (Path.directory? path) s) := by
  obtain ⟨cs, c, q, hp, hc, hw, hq, rfl⟩ := FileSystem.exists_of_find h he
  obtain ⟨ht, hpe⟩ := FileSystem.find_eq_ok_iff.1 h
  obtain ⟨h0, -, -, -⟩ := FileSystem.target_eq_ok_iff.1 ht
  have hdir (hcl : m.files.Closed) (p : Place) (hp : m.files.target m.workDir path = .ok p) :
      p.dropLast = q := by
    cases ht.symm.trans hp
    exact hcl.dropLast_further hc hq hpe he
  have hdenotes := walk_rebaseDirectory hp hc hw hq s
  exact
    { of_absolute := fun h => rebaseDirectory_of_absolute h _
      of_relative := fun h d hd hne => rebaseDirectory_of_parent h hd hne
      of_bare := fun _ h => rebaseDirectory_of_bare h
      absolute := isAbsolute_rebaseDirectory hp hc
      denotes := by
        intro hcl p hp
        rw [hdir hcl p hp]
        exact hdenotes
      target := by
        intro hcl p ht hl
        rw [hdir hcl p ht]
        obtain ⟨u, hu, hu0⟩ := exists_rebaseDirectory_eq hp hc h0 s
        rw [hu] at hdenotes hl ⊢
        exact FileSystem.target_append hu0 hs hl hdenotes }

/-- A file that can be read. -/
lemma exists_of_contentOf {fs : FileSystem} {wd : Place} {path : String} {bytes : Bytes}
    (h : fs.contentOf wd path = .ok bytes) :
    ∃ p e, fs.find wd path = .ok (p, e) ∧ e ≠ .directory := by
  obtain ⟨⟨p, e⟩, hf, h⟩ := exists_of_bind_ok h
  refine ⟨p, e, hf, ?_⟩
  rintro rfl
  cases h

lemma pathExists_of_find {fs : FileSystem} {wd : Place} {path : String} {x : Place × Entry}
    (h : fs.find wd path = .ok x) : fs.pathExists wd path = true := by
  rw [FileSystem.pathExists, h]

/-- The text of a file is what its bytes are the bytes of. -/
lemma readText_of_content {m : Machine} {path c : String}
    (h : m.files.contentOf m.workDir path = .ok (Text.utf8 c)) : readText m path = .ok c := by
  obtain ⟨p, e, hf, -⟩ := exists_of_contentOf h
  rw [readText, pathExists_of_find hf, h]
  simp [Text.ofUtf8?_eq_some_iff.2 rfl]

/-- There is a fault where something is there, but no text. -/
lemma exists_readText_eq_io {m : Machine} {path : String}
    (he : m.files.pathExists m.workDir path = true)
    (h : ∀ c, m.files.contentOf m.workDir path ≠ .ok (Text.utf8 c)) :
    ∃ f, readText m path = .error (.io f) := by
  rw [readText, he]
  rcases hb : m.files.contentOf m.workDir path with f | bytes
  · exact ⟨f, rfl⟩
  · rcases ht : Text.ofUtf8? bytes with _ | c
    · exact ⟨.notText, by simp [ht]⟩
    · rw [Text.ofUtf8?_eq_some_iff.1 ht] at hb
      exact absurd hb (h c)

/-- A file with a text holds the configuration of the text, but for the search directories. -/
lemma ofFile_of_content {m : Machine} {path c : String}
    (h : m.files.contentOf m.workDir path = .ok (Text.utf8 c)) :
    ofFile m path = (ofString c).map fun k => k.rebase (Path.directory? path) := by
  rw [ofFile, readText_of_content h]
  simp only [bind, Except.bind]
  cases ofString c <;> rfl

/-- **A configuration in a file is the one that its text describes, taken from its directory.**
If there is nothing at the path, the error names the path; if there is something, but no text, the
error is a fault; and else, with the text, there is an error exactly if there is one for the text,
and it is the same one.  Where there is none, only the search directories differ: they are as many
and in the same order, and each has become what `Rebased` says.  So each leads from the working
directory where the one that was written leads from the directory of the file. -/
theorem ofFile_rebased (m : Machine) (path : String) :
    (m.files.pathExists m.workDir path = false → ofFile m path = .error (.noConfig path)) ∧
      (m.files.pathExists m.workDir path = true →
        (∀ c, m.files.contentOf m.workDir path ≠ .ok (Text.utf8 c)) →
        ∃ f, ofFile m path = .error (.io f)) ∧
      ∀ c, m.files.contentOf m.workDir path = .ok (Text.utf8 c) →
        (∀ e, ofFile m path = .error e ↔ ofString c = .error e) ∧
        ∀ k, ofString c = .ok k →
          ∃ paths, ofFile m path = .ok { k with searchPaths := paths } ∧
            List.Forall₂ (Rebased m path) k.searchPaths paths := by
  refine ⟨fun h => ?_, fun he h => ?_, fun c h => ⟨fun e => ?_, fun k hk => ?_⟩⟩
  · rw [ofFile, readText, h]
    rfl
  · obtain ⟨f, hf⟩ := exists_readText_eq_io he h
    exact ⟨f, by rw [ofFile, hf]; rfl⟩
  · rw [ofFile_of_content h]
    cases ofString c <;> simp [Except.map]
  · refine ⟨_, by rw [ofFile_of_content h, hk]; rfl, List.forall₂_map_right_iff.2 ?_⟩
    obtain ⟨p, e, hf, he⟩ := exists_of_contentOf h
    rw [List.forall₂_same]
    intro s hs
    refine rebased_rebaseDirectory hf he ?_
    rintro rfl
    obtain ⟨a, ha, -⟩ := (wellFormed_of_ofString hk).searchPaths "" hs
    simp at ha

/-- A machine with a configuration file in a directory, which says nothing of search directories. -/
def plainFile : Machine :=
  Machine.fresh.addFile "conf/suite.yaml" 0o644 (Text.utf8 "suite: homely\n")

/-- What the text describes: the stock comparison under another name. -/
def plainConfig : Config := { Config.stock with suite := ⟨"homely", by decide⟩ }

/-- A path to nothing, one to a directory, and one to the file, written with more than it needs; the
default search directory is taken from that of the file. -/
theorem ofFile_rebased_plainFile :
    ofFile plainFile "suite.yaml" = .error (.noConfig "suite.yaml") ∧
      (∃ f, ofFile plainFile "conf" = .error (.io f)) ∧
      ofString "suite: homely\n" = .ok plainConfig ∧
      ofFile plainFile "conf//./suite.yaml" =
        .ok { plainConfig with searchPaths := ["conf/node_modules/.bin"] } ∧
      plainFile.files.target plainFile.workDir "conf/node_modules/.bin" =
        plainFile.files.target ["tmp", "work", "conf"] "node_modules/.bin" := by
  have hdir : plainFile.files.contentOf plainFile.workDir "conf" = .error .isADirectory := by
    decide +kernel
  have hc : plainFile.files.contentOf plainFile.workDir "conf//./suite.yaml" =
      .ok (Text.utf8 "suite: homely\n") := by decide +kernel
  have hk : ofString "suite: homely\n" = .ok plainConfig := by decide +kernel
  have ht : plainFile.files.target plainFile.workDir "conf//./suite.yaml" =
      .ok ["tmp", "work", "conf", "suite.yaml"] := by decide +kernel
  have hcl : plainFile.files.Closed := FileSystem.closed_of_entries (by decide +kernel)
  obtain ⟨paths, hf, hr⟩ := ((ofFile_rebased plainFile "conf//./suite.yaml").2.2 _ hc).2 _ hk
  obtain ⟨r, rs, hd, hn, rfl⟩ := List.forall₂_cons_left_iff.1 hr
  obtain rfl := List.forall₂_nil_left_iff.1 hn
  have hrel : r = "conf/node_modules/.bin" :=
    hd.of_relative (by decide +kernel) "conf" (by decide +kernel) (by decide)
  subst hrel
  refine ⟨(ofFile_rebased plainFile "suite.yaml").1 (by decide +kernel),
    (ofFile_rebased plainFile "conf").2.1 (by decide +kernel) ?_, hk, hf, ?_⟩
  · intro c hc
    rw [hdir] at hc
    cases hc
  · exact hd.target hcl _ ht (by decide +kernel)

end Config

end BenchRoster
