/-
# Making an options file

The options of an invocation are written to a file in a directory that is made for it.  Either both
are made, and nothing else is changed, or none: if the file cannot be written, the directory is
removed again.

* `Machine.Keeps` says that the directory with some number is there, with options in its file;
* `Machine.makeTemporary_cases` says what making a directory comes to;
* `Adapter.prepareOptions_cases` says the same of the directory with its file.
-/
import BenchRoster.Adapter
import BenchRoster.Proofs.Places

namespace BenchRoster

open FileSystem (SameOutside Closed route)

/-! ## Names of directories and of the file -/

lemma no_digit_toString (n : ℕ) {c : Char} (h : c.isDigit = false) : c ∉ (toString n).toList := by
  intro hc
  have hd : (toString n).toList = Nat.toDigits 10 n := by
    show (Nat.repr n).toList = _
    rw [Nat.repr, String.toList_ofList]
  rw [hd] at hc
  rw [Nat.isDigit_of_mem_toDigits (by decide) (by decide) hc] at h
  cases h

/-- The characters of a temporary name: four at the beginning, and digits. -/
lemma toList_temporaryName (n : ℕ) :
    ∃ cs, (Machine.temporaryName n).toList = '.' :: 't' :: 'm' :: 'p' :: cs ∧
      ∀ c, c.isDigit = false → c ∉ cs := by
  refine ⟨List.replicate (6 - (toString n).length) '0' ++ (toString n).toList, ?_, ?_⟩
  · have hp : ".tmp".toList = ['.', 't', 'm', 'p'] := rfl
    simp only [Machine.temporaryName, String.toList_append, String.toList_ofList, hp,
      List.cons_append, List.nil_append]
  · intro c hc hm
    rcases List.mem_append.1 hm with hm | hm
    · rw [List.eq_of_mem_replicate hm] at hc
      cases hc
    · exact no_digit_toString n hc hm

lemma plain_temporaryName (n : ℕ) : Path.Plain (Machine.temporaryName n) := by
  obtain ⟨cs, hcs, hd⟩ := toList_temporaryName n
  have hne : ∀ s : String, s.toList.length < 4 → Machine.temporaryName n ≠ s := by
    rintro s hs rfl
    rw [hcs] at hs
    simp at hs
    omega
  refine ⟨hne _ (by decide), hne _ (by decide), hne _ (by decide), ?_, ?_⟩
  · have := hd '/' rfl
    simp [hcs, this]
  · have := hd '\x00' rfl
    simp [hcs, this]

lemma plain_optionsFile : Path.Plain Adapter.optionsFile := by
  constructor <;> decide

/-! ## A directory with options -/

namespace Machine

/-- The place of a temporary directory. -/
def temporaryPlace (p : Place) (n : ℕ) : Place := p ++ [temporaryName n]

/-- The path of the options file in a directory. -/
def optionsPath (dir : String) : String := Path.join dir Adapter.optionsFile

/-- The temporary directory with a number is there, and its file holds options.  Nothing on the way
to the directory above it is inside of it. -/
structure Keeps (m : Machine) (p : Place) (n : ℕ) (o : Options) : Prop where
  found : m.files.find m.workDir m.temporary = .ok (p, .directory)
  aside : ∀ v ∈ route m.workDir m.temporary p, ¬ temporaryPlace p n <+: v
  short : m.temporaryTooLong n = false
  shortFile : (optionsPath (m.temporaryPath n)).utf8ByteSize < FileSystem.maxPathBytes
  directory : m.files.entry? (temporaryPlace p n) = some .directory
  file : ∃ mode, m.files.entry? (temporaryPlace p n ++ [Adapter.optionsFile]) =
    some (.file mode (Text.utf8 o.toJson))

variable {m m' : Machine} {p : Place} {n k : ℕ} {o : Options}

lemma temporaryPlace_ne_nil (p : Place) (n : ℕ) : temporaryPlace p n ≠ [] := by
  simp [temporaryPlace]

/-- Two temporary directories with something in common are one. -/
lemma temporaryPath_eq (m : Machine) {q : Place} (hn : temporaryPlace p n <+: q)
    (hk : temporaryPlace p k <+: q) : m.temporaryPath n = m.temporaryPath k := by
  have hl : (temporaryPlace p n).length = (temporaryPlace p k).length := by simp [temporaryPlace]
  have hp : p ++ [temporaryName n] = p ++ [temporaryName k] :=
    (List.prefix_of_prefix_length_le hn hk (Nat.le_of_eq hl)).eq_of_length hl
  have hnk : temporaryName n = temporaryName k := by simpa using hp
  rw [temporaryPath, hnk, temporaryPath]

/-- A name that is not too long leads to its place. -/
lemma target_temporaryPath (hf : m.files.find m.workDir m.temporary = .ok (p, .directory))
    (hs : m.temporaryTooLong n = false) :
    m.files.target m.workDir (m.temporaryPath n) = .ok (temporaryPlace p n) := by
  have h : (temporaryName n).utf8ByteSize ≤ FileSystem.maxNameBytes ∧
      (m.temporaryPath n).utf8ByteSize < FileSystem.maxPathBytes := by
    simpa [temporaryTooLong] using hs
  exact FileSystem.target_join hf (plain_temporaryName n) h.1 h.2

lemma target_optionsPath {dir : String} {q : Place}
    (hf : m.files.find m.workDir dir = .ok (q, .directory))
    (hs : (optionsPath dir).utf8ByteSize < FileSystem.maxPathBytes) :
    m.files.target m.workDir (optionsPath dir) = .ok (q ++ [Adapter.optionsFile]) :=
  FileSystem.target_join hf plain_optionsFile (by decide) hs

namespace Keeps

lemma target_directory (h : m.Keeps p n o) :
    m.files.target m.workDir (m.temporaryPath n) = .ok (temporaryPlace p n) :=
  target_temporaryPath h.found h.short

lemma find_directory (h : m.Keeps p n o) :
    m.files.find m.workDir (m.temporaryPath n) = .ok (temporaryPlace p n, .directory) :=
  FileSystem.find_eq_ok_iff.2 ⟨h.target_directory, h.directory⟩

/-- The file holds the options. -/
lemma content (h : m.Keeps p n o) :
    m.files.contentOf m.workDir (optionsPath (m.temporaryPath n)) = .ok (Text.utf8 o.toJson) := by
  obtain ⟨mode, hm⟩ := h.file
  have hf := FileSystem.find_eq_ok_iff.2 ⟨target_optionsPath h.find_directory h.shortFile, hm⟩
  rw [FileSystem.contentOf, hf]
  rfl

/-- A directory is kept by everything that leaves alone what is in it, and the way to it. -/
lemma change (h : m.Keeps p n o) (hw : m'.workDir = m.workDir) (ht : m'.temporary = m.temporary)
    (hf : m'.files.find m.workDir m.temporary = .ok (p, .directory))
    (he : ∀ q, temporaryPlace p n <+: q → m'.files.entry? q = m.files.entry? q) :
    m'.Keeps p n o where
  found := by rw [hw, ht, hf]
  aside := by rw [hw, ht]; exact h.aside
  short := by
    rw [temporaryTooLong, temporaryPath, ht]
    exact h.short
  shortFile := by
    rw [temporaryPath, ht]
    exact h.shortFile
  directory := by rw [he _ List.prefix_rfl, h.directory]
  file := by
    obtain ⟨mode, hm⟩ := h.file
    exact ⟨mode, by rw [he _ (List.prefix_append ..), hm]⟩

end Keeps

lemma removeDirectory_of_target {path : String} {q : Place}
    (h : m.files.target m.workDir path = .ok q) :
    m.removeDirectory path = { m with files := m.files.removeAll q } := by
  rw [removeDirectory, h]

/-- The machine with a new temporary directory. -/
def withTemporary (m : Machine) (p : Place) (n : ℕ) : Machine :=
  { m with files := m.files.put (temporaryPlace p n) .directory, nextTemporary := n + 1 }

/-- Either no directory is made, and nothing is changed, or one where nothing was. -/
lemma makeTemporary_cases (m : Machine) :
    (∃ f, m.makeTemporary = (.error f, m)) ∨
    ∃ p n, m.files.find m.workDir m.temporary = .ok (p, .directory) ∧
      m.files.entry? (temporaryPlace p n) = none ∧ m.temporaryTooLong n = false ∧
      m.makeTemporary = (.ok (m.temporaryPath n), m.withTemporary p n) := by
  rw [makeTemporary]
  split
  · rename_i p hp
    dsimp only
    split
    · rename_i n hn
      have ht := firstFree?_free hn
      split
      · exact .inl ⟨_, rfl⟩
      · rename_i hs
        exact .inr ⟨p, n, hp, by simpa [temporaryPlace] using ht, Bool.eq_false_iff.2 hs, rfl⟩
    · exact .inl ⟨_, rfl⟩
  · exact .inl ⟨_, rfl⟩
  · exact .inl ⟨_, rfl⟩

end Machine

namespace FileSystem

variable {fs : FileSystem} {wd p : Place} {c path : String} {content : Bytes}

/-- A file is stored in its directory, where nothing was before. -/
lemma store_new (ht : fs.target wd path = .ok (p ++ [c])) (hn : fs.entry? (p ++ [c]) = none)
    (hd : fs.entry? p = some .directory) :
    fs.store wd path content = .ok (fs.put (p ++ [c]) (.file defaultMode content)) := by
  rw [store, ht]
  dsimp only [bind, Except.bind]
  rw [hn, List.dropLast_concat, hd]

/-- No file is stored under a path that is too long. -/
lemma store_tooLong (hl : maxPathBytes ≤ path.utf8ByteSize) :
    ∃ f, fs.store wd path content = .error f := by
  rcases ht : fs.target wd path with f | q
  · exact ⟨f, by rw [store, ht]; rfl⟩
  · obtain ⟨-, -, hs, -⟩ := target_eq_ok_iff.1 ht
    exact absurd hs (Nat.not_lt.2 hl)

/-- Making a directory where nothing was changes nothing outside of it. -/
lemma sameOutside_put (hp : p ≠ []) (e : Entry) : fs.SameOutside p (fs.put p e) := by
  intro q hq
  rw [entry?_put hp, if_neg]
  rintro rfl
  exact hq List.prefix_rfl

lemma sameOutside_removeAll (hp : p ≠ []) : fs.SameOutside p (fs.removeAll p) := by
  intro q hq
  rw [entry?_removeAll hp, if_neg hq]

/-- Removing what was made where nothing was leaves everything as it was. -/
lemma entry?_removeAll_put (hc : fs.Closed) (hp : p ≠ []) (hn : fs.entry? p = none) (e : Entry)
    (q : Place) : FileSystem.entry? ((fs.put p e).removeAll p) q = fs.entry? q := by
  rw [entry?_removeAll hp]
  split
  · rename_i hq
    exact (hc.below hn hq).symm
  · rename_i hq
    exact sameOutside_put hp e q hq

end FileSystem

/-! ## Making the directory -/

namespace Machine

variable {m : Machine} {p : Place} {n : ℕ}

lemma sameOutside_withTemporary (m : Machine) (p : Place) (n : ℕ) :
    m.files.SameOutside (temporaryPlace p n) (m.withTemporary p n).files :=
  FileSystem.sameOutside_put (temporaryPlace_ne_nil p n) .directory

lemma directory_withTemporary (m : Machine) (p : Place) (n : ℕ) :
    (m.withTemporary p n).files.entry? (temporaryPlace p n) = some .directory := by
  show FileSystem.entry? (m.files.put _ _) _ = _
  rw [FileSystem.entry?_put (temporaryPlace_ne_nil p n), if_pos rfl]

/-- What is known when a temporary directory is made. -/
structure Fresh (m : Machine) (p : Place) (n : ℕ) : Prop where
  closed : m.files.Closed
  found : m.files.find m.workDir m.temporary = .ok (p, .directory)
  free : m.files.entry? (temporaryPlace p n) = none
  short : m.temporaryTooLong n = false

namespace Fresh

lemma aside (h : m.Fresh p n) :
    ∀ v ∈ route m.workDir m.temporary p, ¬ temporaryPlace p n <+: v :=
  FileSystem.not_prefix_of_mem_route h.closed h.free h.found

lemma closed_withTemporary (h : m.Fresh p n) : (m.withTemporary p n).files.Closed :=
  h.closed.put (FileSystem.find_eq_ok_iff.1 h.found).2 h.free

/-- There is no file in the new directory. -/
lemma no_file (h : m.Fresh p n) :
    (m.withTemporary p n).files.entry? (temporaryPlace p n ++ [Adapter.optionsFile]) = none := by
  show FileSystem.entry? (m.files.put _ _) _ = _
  rw [FileSystem.entry?_put (temporaryPlace_ne_nil p n), if_neg (by simp)]
  exact h.closed.below h.free (List.prefix_append ..)

lemma target (h : m.Fresh p n) :
    (m.withTemporary p n).files.target m.workDir (m.temporaryPath n) =
      .ok (temporaryPlace p n) :=
  target_temporaryPath (m := m.withTemporary p n)
    ((sameOutside_withTemporary m p n).find h.found h.aside) h.short

lemma find (h : m.Fresh p n) :
    (m.withTemporary p n).files.find m.workDir (m.temporaryPath n) =
      .ok (temporaryPlace p n, .directory) :=
  FileSystem.find_eq_ok_iff.2 ⟨h.target, directory_withTemporary m p n⟩

/-- The files with an options file in the new directory. -/
def filesWith (m : Machine) (p : Place) (n : ℕ) (o : Options) : FileSystem :=
  (m.withTemporary p n).files.put (temporaryPlace p n ++ [Adapter.optionsFile])
    (.file FileSystem.defaultMode (Text.utf8 o.toJson))

lemma sameOutside_filesWith (m : Machine) (p : Place) (n : ℕ) (o : Options) :
    m.files.SameOutside (temporaryPlace p n) (filesWith m p n o) := by
  intro q hq
  rw [filesWith, FileSystem.entry?_put (by simp), if_neg]
  · exact sameOutside_withTemporary m p n q hq
  · rintro rfl
    exact hq (List.prefix_append ..)

/-- The new machine keeps the directory with the options. -/
lemma keeps (h : m.Fresh p n) {o : Options}
    (hs : (optionsPath (m.temporaryPath n)).utf8ByteSize < FileSystem.maxPathBytes) :
    { m.withTemporary p n with files := filesWith m p n o }.Keeps p n o where
  found := (sameOutside_filesWith m p n o).find h.found h.aside
  aside := h.aside
  short := h.short
  shortFile := hs
  directory := by
    show FileSystem.entry? (filesWith m p n o) _ = _
    rw [filesWith, FileSystem.entry?_put (by simp), if_neg (by simp), directory_withTemporary]
  file := ⟨_, by
    show FileSystem.entry? (filesWith m p n o) _ = _
    rw [filesWith, FileSystem.entry?_put (by simp), if_pos rfl]⟩

end Fresh

end Machine

namespace Adapter

variable {m : Machine} {p : Place} {n : ℕ}

/-- In a new directory the options are written. -/
lemma prepareOptions_short (o : Options) (h : m.Fresh p n)
    (hm : m.makeTemporary = (.ok (m.temporaryPath n), m.withTemporary p n))
    (hs : (Machine.optionsPath (m.temporaryPath n)).utf8ByteSize < FileSystem.maxPathBytes) :
    prepareOptions o m =
      (.ok (m.temporaryPath n),
        { m.withTemporary p n with files := Machine.Fresh.filesWith m p n o }) := by
  have ht := Machine.target_optionsPath (m := m.withTemporary p n) h.find hs
  have hst : (m.withTemporary p n).store (Path.join (m.temporaryPath n) optionsFile)
      (Text.utf8 o.toJson) =
      .ok { m.withTemporary p n with files := Machine.Fresh.filesWith m p n o } := by
    rw [Machine.store]
    exact congrArg (Except.map _)
      (FileSystem.store_new ht h.no_file (Machine.directory_withTemporary m p n))
  simp only [prepareOptions, hm, hst]

/-- If the path of the file is too long for that, the directory is removed again. -/
lemma prepareOptions_long (o : Options) (h : m.Fresh p n)
    (hm : m.makeTemporary = (.ok (m.temporaryPath n), m.withTemporary p n))
    (hl : FileSystem.maxPathBytes ≤ (Machine.optionsPath (m.temporaryPath n)).utf8ByteSize) :
    ∃ f : IoFault, prepareOptions o m =
      (.error (.io "writing options file" f.message),
        { m.withTemporary p n with
          files := (m.withTemporary p n).files.removeAll (Machine.temporaryPlace p n) }) := by
  obtain ⟨f, hf⟩ : ∃ f, (m.withTemporary p n).files.store m.workDir
      (Machine.optionsPath (m.temporaryPath n)) (Text.utf8 o.toJson) = .error f :=
    FileSystem.store_tooLong hl
  have hst : (m.withTemporary p n).store (Path.join (m.temporaryPath n) optionsFile)
      (Text.utf8 o.toJson) = .error f := by
    rw [Machine.store]
    exact congrArg (Except.map _) hf
  have hr := Machine.removeDirectory_of_target (m := m.withTemporary p n) h.target
  exact ⟨f, by simp only [prepareOptions, hm, hst, hr]⟩

/-- Either no options are written, and every place is as it was, or they are in a new directory and
nothing has changed outside of it. -/
lemma prepareOptions_cases (o : Options) {m : Machine} (hc : m.files.Closed) :
    (∃ e m', prepareOptions o m = (.error e, m') ∧ m'.workDir = m.workDir ∧
      m'.temporary = m.temporary ∧ ∀ q, m'.files.entry? q = m.files.entry? q) ∨
    ∃ p n m', prepareOptions o m = (.ok (m.temporaryPath n), m') ∧ m.Fresh p n ∧
      m'.workDir = m.workDir ∧ m'.temporary = m.temporary ∧ m'.files.Closed ∧ m'.Keeps p n o ∧
      m.files.SameOutside (Machine.temporaryPlace p n) m'.files := by
  rcases m.makeTemporary_cases with ⟨f, hf⟩ | ⟨p, n, hp, hn, hs, hm⟩
  · exact .inl ⟨_, m, by rw [prepareOptions, hf], rfl, rfl, fun _ => rfl⟩
  · have h : m.Fresh p n := ⟨hc, hp, hn, hs⟩
    rcases Nat.lt_or_ge (Machine.optionsPath (m.temporaryPath n)).utf8ByteSize
      FileSystem.maxPathBytes with hl | hl
    · refine .inr ⟨p, n, _, prepareOptions_short o h hm hl, h, rfl, rfl, ?_, h.keeps hl,
        Machine.Fresh.sameOutside_filesWith m p n o⟩
      exact h.closed_withTemporary.put (Machine.directory_withTemporary m p n) h.no_file
    · obtain ⟨f, hf⟩ := prepareOptions_long o h hm hl
      refine .inl ⟨_, _, hf, rfl, rfl, ?_⟩
      exact FileSystem.entry?_removeAll_put hc (Machine.temporaryPlace_ne_nil p n) hn .directory

end Adapter

end BenchRoster
