/-
# Configurations are well formed

A configuration may be the stock one, or come from a text, from a file, or from a file that is
looked for.  However a program has come by it, it obeys all rules: the stock one because it was
written so, the others because the draft was checked; and what is done to a configuration from a
file afterwards, taking its search directories from the place of the file, breaks none.

* `Config.WellFormed` spells out the rules, and `Config.Origin` lists where configurations come
  from;
* `Draft.wellFormed_of_check` goes through the checks one after the other;
* `Config.Origin.wellFormed` says that all configurations are well formed;
* `Config.WellFormed.roster_eq_ok` and `Config.WellFormed.suiteOf_eq_ok` make a roster and a suite
  of them.
-/
import BenchRoster.Config.Suite
import Mathlib.Tactic.Lemma

namespace BenchRoster

/-! ## The rules -/

/-- A text of 1 to 64 bytes, all of them ASCII letters, digits, hyphens, underscores and full
stops. -/
def IsName (s : String) : Prop :=
  s.toList ≠ [] ∧ s.utf8ByteSize ≤ 64 ∧
    ∀ c ∈ s.toList, c.isAlphanum = true ∨ c = '-' ∨ c = '_' ∨ c = '.'

/-- A text with a character that is no blank. -/
def HasMark (s : String) : Prop := ∃ c ∈ s.toList, Text.isBlank c = false

/-- The rules for one backend. -/
structure BackendEntry.WellFormed (e : BackendEntry) : Prop where
  name : IsName e.name.text
  locator : HasMark e.locator.text ∧ '\x00' ∉ e.locator.text.toList
  flag : e.options.isSome = true → HasMark e.flag

/-- The rules for a configuration. -/
structure Config.WellFormed (c : Config) : Prop where
  suite : IsName c.suite.text
  backends : ∀ e ∈ c.backends, e.WellFormed
  distinct : (c.backends.map (·.name)).Nodup
  sampleSize : 10 ≤ c.timing.sampleSize ∧ c.timing.sampleSize ≤ 10000
  measurementTime : 1 ≤ c.timing.measurementTime ∧ c.timing.measurementTime ≤ 600000
  warmUpTime : 1 ≤ c.timing.warmUpTime ∧ c.timing.warmUpTime ≤ 600000
  searchPaths : ∀ d ∈ c.searchPaths, HasMark d

lemma isName_of_valid {s : String} (h : nameFault? s = none) : IsName s := by
  obtain ⟨hn, hs, hc⟩ := nameFault?_eq_none_iff.1 h
  refine ⟨hn, hs, fun c hm => ?_⟩
  simpa [isNameChar, or_assoc] using hc c hm

lemma hasMark_of_not_blank {s : String} (h : Text.blank s = false) : HasMark s := by
  simpa [Text.blank, HasMark] using h

lemma HasMark.append_left {s : String} (h : HasMark s) (t : String) : HasMark (t ++ s) := by
  obtain ⟨c, hc, hb⟩ := h
  exact ⟨c, by rw [String.toList_append]; exact List.mem_append_right _ hc, hb⟩

/-- Names and locators obey their rules by being such; what is left to see is the flag. -/
lemma BackendEntry.wellFormed_of_flag {e : BackendEntry}
    (h : e.options.isSome = true → HasMark e.flag) : e.WellFormed where
  name := isName_of_valid e.name.valid
  locator := locatorFault?_eq_none_iff.1 e.locator.valid
  flag := h

/-! ## What the checks let pass -/

section Checks

variable {ε α β : Type}

/-- A computation in two parts gives a value only if both parts do. -/
lemma exists_of_bind_ok {x : Except ε α} {f : α → Except ε β} {b : β}
    (h : (x >>= f) = .ok b) : ∃ a, x = .ok a ∧ f a = .ok b := by
  cases x with
  | error e => cases h
  | ok a => exact ⟨a, rfl, h⟩

/-- Going through a list ends well only if it does so at every item. -/
lemma forM_ok {f : α → Except ε Unit} {xs : List α} (h : xs.forM f = .ok ()) :
    ∀ x ∈ xs, f x = .ok () := by
  induction xs with
  | nil => simp
  | cons x xs ih =>
    obtain ⟨⟨⟩, hx, hxs⟩ := exists_of_bind_ok h
    exact List.forall_mem_cons.2 ⟨hx, ih hxs⟩

lemma admits_of_checkSetting {s : Setting} {n : Nat} (h : checkSetting s n = .ok ()) :
    s.least ≤ n ∧ n ≤ s.greatest := by
  rw [checkSetting] at h
  split at h
  · exact Setting.admits_iff.1 ‹_›
  · cases h

lemma Timing.admits_of_check {t : Timing} (h : t.check = .ok ()) :
    ∀ s ∈ t.settings, s.1.least ≤ s.2 ∧ s.2 ≤ s.1.greatest :=
  fun s hs => admits_of_checkSetting (forM_ok h s hs)

lemma hasMark_of_checkSearchPaths {paths : List String} (h : checkSearchPaths paths = .ok ()) :
    ∀ d ∈ paths, HasMark d := by
  rw [checkSearchPaths] at h
  split at h
  · cases h
  · intro d hd
    exact hasMark_of_not_blank (by simp_all)

/-- A backend that passes keeps its options and its flag. -/
lemma BackendDraft.wellFormed_of_check {d : BackendDraft} {index : Nat} {e : BackendEntry}
    (h : d.check index = .ok e) : e.WellFormed := by
  obtain ⟨n, -, h⟩ := exists_of_bind_ok h
  obtain ⟨l, -, h⟩ := exists_of_bind_ok h
  split at h
  · cases h
  · rename_i hf
    cases h
    refine BackendEntry.wellFormed_of_flag fun ho => hasMark_of_not_blank ?_
    simpa [lacksFlag, ho] using hf

/-- The names of the backends that pass differ, among themselves and from those seen before. -/
lemma wellFormed_of_checkBackends {ds : List BackendDraft} {index : Nat} {seen : List BackendName}
    {es : List BackendEntry} (h : checkBackends index seen ds = .ok es) :
    (∀ e ∈ es, e.WellFormed) ∧ (es.map (·.name)).Nodup ∧ ∀ e ∈ es, e.name ∉ seen := by
  induction ds generalizing index seen es with
  | nil =>
    cases h
    simp
  | cons d ds ih =>
    obtain ⟨e, he, h⟩ := exists_of_bind_ok h
    split at h
    · cases h
    · rename_i hs
      obtain ⟨es, hes, h⟩ := exists_of_bind_ok h
      cases h
      obtain ⟨hw, hn, hi⟩ := ih hes
      have hne : ∀ x ∈ es, x.name ≠ e.name ∧ x.name ∉ seen := by simpa using hi
      refine ⟨List.forall_mem_cons.2 ⟨BackendDraft.wellFormed_of_check he, hw⟩, ?_,
        List.forall_mem_cons.2 ⟨by simpa using hs, fun x hx => (hne x hx).2⟩⟩
      rw [List.map_cons, List.nodup_cons]
      refine ⟨fun hm => ?_, hn⟩
      obtain ⟨x, hx, hxe⟩ := List.mem_map.1 hm
      exact (hne x hx).1 hxe

end Checks

namespace Config

/-- The stock backends, too, obey the rules. -/
lemma wellFormed_stockBackends :
    (∀ e ∈ stockBackends, e.WellFormed) ∧ (stockBackends.map (·.name)).Nodup := by
  refine ⟨fun e he => BackendEntry.wellFormed_of_flag fun _ => hasMark_of_not_blank ?_, by decide⟩
  revert e
  decide

lemma wellFormed_stock : stock.WellFormed where
  suite := isName_of_valid stock.suite.valid
  backends := wellFormed_stockBackends.1
  distinct := wellFormed_stockBackends.2
  sampleSize := by decide
  measurementTime := by decide
  warmUpTime := by decide
  searchPaths := fun d hd => hasMark_of_not_blank (by revert d; decide)

end Config

/-- A draft that passes all checks is well formed; without backends of its own it has those of the
stock configuration. -/
lemma Draft.wellFormed_of_check {d : Draft} {c : Config} (h : d.check = .ok c) : c.WellFormed := by
  obtain ⟨suite, -, h⟩ := exists_of_bind_ok h
  obtain ⟨⟨⟩, ht, h⟩ := exists_of_bind_ok h
  obtain ⟨⟨⟩, hp, h⟩ := exists_of_bind_ok h
  have ha := Timing.admits_of_check ht
  have hb : ∃ es, ((∀ e ∈ es, e.WellFormed) ∧ (es.map (·.name)).Nodup) ∧
      c = { suite, timing := d.timing, searchPaths := d.searchPaths, backends := es } := by
    split at h
    · cases h
      exact ⟨_, Config.wellFormed_stockBackends, rfl⟩
    · obtain ⟨es, he, h⟩ := exists_of_bind_ok h
      cases h
      obtain ⟨hw, hn, -⟩ := wellFormed_of_checkBackends he
      exact ⟨es, ⟨hw, hn⟩, rfl⟩
  obtain ⟨es, ⟨hw, hn⟩, rfl⟩ := hb
  exact
    { suite := isName_of_valid suite.valid
      backends := hw
      distinct := hn
      sampleSize := ha (.sampleSize, d.timing.sampleSize) (by simp [Timing.settings])
      measurementTime := ha (.measurementTime, d.timing.measurementTime) (by simp [Timing.settings])
      warmUpTime := ha (.warmUpTime, d.timing.warmUpTime) (by simp [Timing.settings])
      searchPaths := hasMark_of_checkSearchPaths hp }

/-! ## Where configurations come from -/

namespace Config

/-- A directory taken from another one has a mark if it had one before. -/
lemma hasMark_rebaseDirectory {dir : String} (h : HasMark dir) (base : Option String) :
    HasMark (rebaseDirectory base dir) := by
  cases base with
  | none => exact h
  | some b =>
    rw [rebaseDirectory]
    split
    · rw [Path.join]
      split
      · exact h
      · split
        · exact h.append_left b
        · exact h.append_left (b ++ "/")
    · exact h

/-- Taking search directories from another place breaks no rule. -/
lemma WellFormed.rebase {c : Config} (h : c.WellFormed) (base : Option String) :
    (c.rebase base).WellFormed :=
  { h with
    searchPaths := by
      intro d hd
      obtain ⟨dir, hdir, rfl⟩ := List.mem_map.1 hd
      exact hasMark_rebaseDirectory (h.searchPaths dir hdir) base }

/-- How a program comes by a configuration. -/
inductive Origin where
  | stock
  | text (text : String)
  | file (m : Machine) (path : String)
  /-- A file if one is named, and the stock configuration if not. -/
  | named (m : Machine) (path : Option String)
  /-- A file if one is named or the default file is there, and the stock configuration if not. -/
  | found (m : Machine) (path : Option String)

/-- What comes from there. -/
def Origin.config : Origin → Except DefinitionError Config
  | stock => .ok Config.stock
  | text t => ofString t
  | file m path => ofFile m path
  | named m path => ofFile? m path
  | found m path => find m path

lemma wellFormed_of_ofString {text : String} {c : Config} (h : ofString text = .ok c) :
    c.WellFormed := by
  rw [ofString] at h
  split at h
  · cases h
  · rename_i d _
    rcases hd : d.check with r | c'
    · rw [hd] at h
      cases h
    · rw [hd] at h
      cases h
      exact Draft.wellFormed_of_check hd

lemma wellFormed_of_ofFile {m : Machine} {path : String} {c : Config} (h : ofFile m path = .ok c) :
    c.WellFormed := by
  obtain ⟨text, -, h⟩ := exists_of_bind_ok h
  obtain ⟨c', hc, h⟩ := exists_of_bind_ok h
  cases h
  exact (wellFormed_of_ofString hc).rebase _

/-- Every configuration is well formed, wherever it comes from. -/
theorem Origin.wellFormed {o : Origin} {c : Config} (h : o.config = .ok c) : c.WellFormed := by
  cases o with
  | stock =>
    cases h
    exact wellFormed_stock
  | text t => exact wellFormed_of_ofString h
  | file m path => exact wellFormed_of_ofFile h
  | named m path =>
    cases path with
    | none =>
      cases h
      exact wellFormed_stock
    | some p => exact wellFormed_of_ofFile h
  | found m path =>
    cases path with
    | none =>
      rw [Origin.config, find] at h
      split at h
      · exact wellFormed_of_ofFile h
      · cases h
        exact wellFormed_stock
    | some p => exact wellFormed_of_ofFile h

/-! ## Rosters and suites -/

variable {c : Config}

lemma map_name_descriptors (τ : Type) (c : Config) :
    (c.descriptors τ).map (·.name) = c.backends.map (·.name) := by
  rw [descriptors, List.map_map]
  rfl

/-- The backends of a well-formed configuration make a roster, in their order. -/
lemma WellFormed.roster_eq_ok (h : c.WellFormed) (τ : Type) :
    ∃ r, c.roster τ = .ok r ∧ r.descriptors = c.descriptors τ ∧
      r.names = c.backends.map (·.name) := by
  have hn : ((c.descriptors τ).map (·.name)).Nodup := by
    rw [map_name_descriptors]
    exact h.distinct
  exact ⟨⟨c.descriptors τ, hn⟩, Roster.ofList_eq_ok_iff.2 rfl, rfl, map_name_descriptors τ c⟩

/-- And so they make a suite. -/
lemma WellFormed.suiteOf_eq_ok (h : c.WellFormed) (τ : Type) :
    ∃ s, c.suiteOf τ = .ok s ∧ s.name = c.suite ∧ s.roster.descriptors = c.descriptors τ ∧
      s.roster.names = c.backends.map (·.name) := by
  obtain ⟨r, hr, hd, hn⟩ := h.roster_eq_ok τ
  exact ⟨⟨c.suite, r⟩, by rw [suiteOf, hr]; rfl, rfl, hd, hn⟩

end Config

end BenchRoster
