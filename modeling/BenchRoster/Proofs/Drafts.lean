/-
# Drafts that are refused

A draft is checked rule by rule, and what is reported is the first rule that it breaks.  The rules
are listed here in their order, each with what it means to break it: first those about the suite,
the settings and the search directories, and then, backend by backend, those about its name, its
locator, the flag for its options, and at last that its name has not been given to a backend before
it.

* `Draft.Rule` and `Draft.rules` are the rules and their order, `Draft.Breaks` is what breaks them;
* `Draft.FirstBroken` says that a rejection is due to the first rule that is broken; checks made one
  after the other are compared with it by `Draft.bind_first` and `Draft.guard_first`;
* `Draft.Valid` says that all rules are kept, and `Draft.CarriedBy` that a configuration says what
  the draft said;
* `Draft.check_first_broken` is the main statement.
-/
import BenchRoster.Proofs.Definition

namespace BenchRoster

/-! ## Names and locators that break a rule -/

/-- What is wrong with a name: it counts that it is empty, then its length, then its characters. -/
inductive BrokenName (s : String) : NameFault → Prop
  | empty (h : s.toList = []) : BrokenName s .empty
  | tooLong (h : 64 < s.utf8ByteSize) : BrokenName s (.tooLong s.utf8ByteSize)
  | badCharacter {c : Char} (hn : s.toList ≠ []) (hl : s.utf8ByteSize ≤ 64) (hc : c ∈ s.toList)
      (hb : ¬(c.isAlphanum = true ∨ c = '-' ∨ c = '_' ∨ c = '.')) : BrokenName s .badCharacter

/-- What is wrong with a locator: it counts that it is blank, and then that it holds a NUL. -/
inductive BrokenLocator (s : String) : LocatorFault → Prop
  | blank (h : ¬HasMark s) : BrokenLocator s .blank
  | nulByte (hm : HasMark s) (h : '\x00' ∈ s.toList) : BrokenLocator s .nulByte

lemma isNameChar_iff {c : Char} :
    isNameChar c = true ↔ c.isAlphanum = true ∨ c = '-' ∨ c = '_' ∨ c = '.' := by
  simp [isNameChar, or_assoc]

lemma nameFault?_eq_some_iff {s : String} {f : NameFault} :
    nameFault? s = some f ↔ BrokenName s f := by
  rw [nameFault?]
  split
  · rename_i he
    have hz : s.utf8ByteSize = 0 := by
      rw [← String.ofList_toList (s := s), he]
      rfl
    constructor
    · rintro ⟨⟩
      exact .empty he
    · rintro (_ | h | ⟨hn, -, -, -⟩)
      · rfl
      · omega
      · exact absurd he hn
  · rename_i he
    split
    · rename_i hl
      constructor
      · rintro ⟨⟩
        exact .tooLong hl
      · rintro (h | _ | ⟨-, h, -, -⟩)
        · exact absurd h he
        · rfl
        · exact absurd hl (Nat.not_lt.2 h)
    · rename_i hl
      split
      · rename_i hc
        refine iff_of_false (by simp) ?_
        rintro (h | h | ⟨-, -, hm, hb⟩)
        · exact he h
        · exact hl h
        · exact hb (isNameChar_iff.1 (List.all_eq_true.1 hc _ hm))
      · rename_i hc
        obtain ⟨c, hm, hb⟩ : ∃ c ∈ s.toList, ¬isNameChar c = true := by
          simpa using hc
        constructor
        · rintro ⟨⟩
          exact .badCharacter he (Nat.not_lt.1 hl) hm (mt isNameChar_iff.2 hb)
        · rintro (h | h | _)
          · exact absurd h he
          · exact absurd h hl
          · rfl

lemma blank_iff {s : String} : Text.blank s = true ↔ ¬HasMark s := by
  simp [Text.blank, HasMark]

lemma locatorFault?_eq_some_iff {s : String} {f : LocatorFault} :
    locatorFault? s = some f ↔ BrokenLocator s f := by
  rw [locatorFault?]
  split
  · rename_i hb
    constructor
    · rintro ⟨⟩
      exact .blank (blank_iff.1 hb)
    · rintro (_ | ⟨hm, -⟩)
      · rfl
      · exact absurd hm (blank_iff.1 hb)
  · rename_i hb
    have hm : HasMark s := hasMark_of_not_blank (by simpa using hb)
    split
    · rename_i hn
      constructor
      · rintro ⟨⟩
        exact .nulByte hm (List.contains_iff_mem.1 hn)
      · rintro (h | _)
        · exact absurd hm h
        · rfl
    · rename_i hn
      refine iff_of_false (by simp) ?_
      rintro (h | ⟨-, h⟩)
      · exact h hm
      · exact hn (List.contains_iff_mem.2 h)

/-! ## The rules of drafts -/

namespace Draft

/-- The rules for a draft; those for a backend are known by its index. -/
inductive Rule where
  | suite
  | setting (s : Setting)
  | searchPaths
  | name (index : ℕ)
  | locator (index : ℕ)
  | flag (index : ℕ)
  | distinct (index : ℕ)

/-- The field of a document that a rule is about, as rejections call it. -/
def Rule.field : Rule → String
  | suite => "suite_name"
  | setting .sampleSize => "sample_size"
  | setting .measurementTime => "measurement_time_ms"
  | setting .warmUpTime => "warm_up_time_ms"
  | searchPaths => "search_paths"
  | name _ => "backend_name"
  | locator _ => "locator"
  | flag _ => "options_flag"
  | distinct _ => "name"

/-- The backends that are written down, if any are. -/
def entries (d : Draft) : List BackendDraft := d.backends.getD []

/-- The rules for the backend at an index, in their order. -/
def entryRules (index : ℕ) : List Rule :=
  [.name index, .locator index, .flag index, .distinct index]

/-- The rules for a draft, in their order. -/
def rules (d : Draft) : List Rule :=
  [.suite, .setting .sampleSize, .setting .measurementTime, .setting .warmUpTime, .searchPaths] ++
    (List.range d.entries.length).flatMap entryRules

/-- The value of a setting. -/
def valueOf (d : Draft) : Setting → ℕ
  | .sampleSize => d.timing.sampleSize
  | .measurementTime => d.timing.measurementTime
  | .warmUpTime => d.timing.warmUpTime

/-- The values of a setting that are allowed. -/
def Allowed : Setting → ℕ → Prop
  | .sampleSize, n => 10 ≤ n ∧ n ≤ 10000
  | .measurementTime, n => 1 ≤ n ∧ n ≤ 600000
  | .warmUpTime, n => 1 ≤ n ∧ n ≤ 600000

/-- The draft breaks a rule, and is to be refused with this rejection. -/
inductive Breaks (d : Draft) : Rule → Rejection → Prop
  | suite {f : NameFault} (h : BrokenName d.suite f) : Breaks d .suite (.suiteName d.suite f)
  | setting {s : Setting} (h : ¬Allowed s (d.valueOf s)) :
      Breaks d (.setting s) (.setting s (d.valueOf s))
  | searchPaths {dir : String} (hd : dir ∈ d.searchPaths) (h : ¬HasMark dir) :
      Breaks d .searchPaths .blankSearchPath
  | name {i : ℕ} {b : BackendDraft} {f : NameFault} (hb : d.entries[i]? = some b)
      (h : BrokenName b.name f) : Breaks d (.name i) (.backendName b.name f)
  | locator {i : ℕ} {b : BackendDraft} {f : LocatorFault} (hb : d.entries[i]? = some b)
      (h : BrokenLocator b.locator f) : Breaks d (.locator i) (.locator b.locator f)
  | flag {i : ℕ} {b : BackendDraft} (hb : d.entries[i]? = some b)
      (ho : b.options.isSome = true) (h : ¬HasMark b.flag) : Breaks d (.flag i) (.missingFlag i)
  | distinct {i j : ℕ} {a b : BackendDraft} (hb : d.entries[i]? = some b) (hj : j < i)
      (ha : d.entries[j]? = some a) (h : a.name = b.name) :
      Breaks d (.distinct i) (.duplicateBackend b.name)

/-- The draft does not break a rule. -/
def Keeps (d : Draft) (x : Rule) : Prop := ∀ r, ¬d.Breaks x r

/-- The first of some rules that the draft breaks is one that leads to this rejection. -/
def FirstBroken (d : Draft) (xs : List Rule) (r : Rejection) : Prop :=
  ∃ before x after, xs = before ++ x :: after ∧ (∀ y ∈ before, d.Keeps y) ∧ d.Breaks x r

variable {d : Draft} {x : Rule} {xs : List Rule} {r : Rejection}

lemma not_firstBroken_nil : ¬d.FirstBroken [] r := by
  rintro ⟨before, x, after, h, -, -⟩
  exact List.append_ne_nil_of_right_ne_nil before (List.cons_ne_nil x after) h.symm

lemma firstBroken_cons_iff :
    d.FirstBroken (x :: xs) r ↔ d.Breaks x r ∨ d.Keeps x ∧ d.FirstBroken xs r := by
  constructor
  · rintro ⟨before, y, after, h, hb, hy⟩
    rcases before with _ | ⟨z, before⟩
    · obtain ⟨rfl, -⟩ := List.cons_eq_cons.1 h
      exact .inl hy
    · obtain ⟨rfl, rfl⟩ := List.cons_eq_cons.1 h
      obtain ⟨hx, hb⟩ := List.forall_mem_cons.1 hb
      exact .inr ⟨hx, before, y, after, rfl, hb, hy⟩
  · rintro (h | ⟨hx, before, y, after, rfl, hb, hy⟩)
    · exact ⟨[], x, xs, rfl, by simp, h⟩
    · exact ⟨x :: before, y, after, rfl, List.forall_mem_cons.2 ⟨hx, hb⟩, hy⟩

/-- Either all of some rules are kept, or one of them is the first that is broken. -/
lemma exists_firstBroken_iff : (∃ r, d.FirstBroken xs r) ↔ ¬∀ y ∈ xs, d.Keeps y := by
  induction xs with
  | nil => simp [not_firstBroken_nil]
  | cons x xs ih =>
    rw [List.forall_mem_cons, not_and, ← ih]
    constructor
    · rintro ⟨r, h⟩ hx
      exact ⟨r, ((firstBroken_cons_iff.1 h).resolve_left (hx r)).2⟩
    · intro h
      by_cases hx : d.Keeps x
      · obtain ⟨r, hr⟩ := h hx
        exact ⟨r, firstBroken_cons_iff.2 (.inr ⟨hx, hr⟩)⟩
      · rw [Keeps, not_forall] at hx
        obtain ⟨r, hr⟩ := hx
        exact ⟨r, firstBroken_cons_iff.2 (.inl (not_not.1 hr))⟩

/-! ### Checks in their order -/

section Order

variable {α β : Type}

/-- A check of one rule comes before the checks of those that follow it. -/
lemma bind_first {c : Except Rejection α} {f : α → Except Rejection β}
    (hc : ∀ r, c = .error r ↔ d.Breaks x r)
    (hf : ∀ a, c = .ok a → ∀ r, f a = .error r ↔ d.FirstBroken xs r) (r : Rejection) :
    (c >>= f) = .error r ↔ d.FirstBroken (x :: xs) r := by
  rw [firstBroken_cons_iff, ← hc]
  rcases h : c with e | a
  · have hk : ¬d.Keeps x := fun hk => hk e ((hc e).1 h)
    simp [bind, Except.bind, hk]
  · have hk : d.Keeps x := fun q hq => by simp [h] at hc; exact hc q hq
    simp [bind, Except.bind, hk, hf a h]

/-- So does a condition under which there is a rejection. -/
lemma guard_first {p : Prop} [Decidable p] {q : Rejection} {y : Except Rejection α}
    (hp : ∀ r, d.Breaks x r ↔ p ∧ r = q) (hy : ¬p → ∀ r, y = .error r ↔ d.FirstBroken xs r)
    (r : Rejection) : (if p then .error q else y) = .error r ↔ d.FirstBroken (x :: xs) r := by
  rw [firstBroken_cons_iff, hp]
  by_cases h : p
  · have hk : ¬d.Keeps x := fun hk => hk q ((hp q).2 ⟨h, rfl⟩)
    simp [h, hk, eq_comm]
  · have hk : d.Keeps x := fun r hr => h ((hp r).1 hr).1
    simp [h, hk, hy h]

end Order

/-! ### The single checks -/

lemma suiteName_eq_error_iff : SuiteName.ofString d.suite = .error r ↔ d.Breaks .suite r := by
  rw [SuiteName.ofString_eq_error_iff]
  constructor
  · rintro ⟨f, hf, rfl⟩
    exact .suite (nameFault?_eq_some_iff.1 hf)
  · rintro ⟨h⟩
    exact ⟨_, nameFault?_eq_some_iff.2 h, rfl⟩

lemma allowed_iff {s : Setting} {n : ℕ} : Allowed s n ↔ s.admits n = true := by
  rw [Setting.admits_iff]
  cases s <;> rfl

lemma checkSetting_eq_error_iff {s : Setting} :
    checkSetting s (d.valueOf s) = .error r ↔ d.Breaks (.setting s) r := by
  rw [checkSetting]
  split
  · rename_i h
    refine iff_of_false (by simp) fun hr => ?_
    cases hr with
    | setting hn => exact hn (allowed_iff.2 h)
  · rename_i h
    constructor
    · rintro ⟨⟩
      exact .setting (mt allowed_iff.1 h)
    · intro hr
      cases hr
      rfl

lemma checkSearchPaths_eq_error_iff :
    checkSearchPaths d.searchPaths = .error r ↔ d.Breaks .searchPaths r := by
  rw [checkSearchPaths]
  split
  · rename_i h
    obtain ⟨dir, hd, hb⟩ := List.any_eq_true.1 h
    constructor
    · rintro ⟨⟩
      exact .searchPaths hd (blank_iff.1 hb)
    · intro hr
      cases hr
      rfl
  · rename_i h
    refine iff_of_false (by simp) fun hr => ?_
    cases hr with
    | searchPaths hd hn => exact h (List.any_eq_true.2 ⟨_, hd, blank_iff.2 hn⟩)

section Entry

variable {i : ℕ} {b : BackendDraft} (hb : d.entries[i]? = some b)

include hb

lemma backendName_eq_error_iff :
    BackendName.ofString b.name = .error r ↔ d.Breaks (.name i) r := by
  rw [BackendName.ofString_eq_error_iff]
  constructor
  · rintro ⟨f, hf, rfl⟩
    exact .name hb (nameFault?_eq_some_iff.1 hf)
  · intro hr
    cases hr with
    | name hb' h =>
      cases hb.symm.trans hb'
      exact ⟨_, nameFault?_eq_some_iff.2 h, rfl⟩

lemma locator_eq_error_iff :
    Locator.ofString b.locator = .error r ↔ d.Breaks (.locator i) r := by
  rw [Locator.ofString_eq_error_iff]
  constructor
  · rintro ⟨f, hf, rfl⟩
    exact .locator hb (locatorFault?_eq_some_iff.1 hf)
  · intro hr
    cases hr with
    | locator hb' h =>
      cases hb.symm.trans hb'
      exact ⟨_, locatorFault?_eq_some_iff.2 h, rfl⟩

lemma breaks_flag_iff :
    d.Breaks (.flag i) r ↔ b.lacksFlag = true ∧ r = .missingFlag i := by
  rw [BackendDraft.lacksFlag, Bool.and_eq_true, blank_iff]
  constructor
  · intro hr
    cases hr with
    | flag hb' ho h =>
      cases hb.symm.trans hb'
      exact ⟨⟨ho, h⟩, rfl⟩
  · rintro ⟨⟨ho, h⟩, rfl⟩
    exact .flag hb ho h

lemma breaks_distinct_iff :
    d.Breaks (.distinct i) r ↔
      b.name ∈ (d.entries.take i).map (·.name) ∧ r = .duplicateBackend b.name := by
  rw [List.mem_map]
  constructor
  · intro hr
    cases hr with
    | @distinct _ j a _ hb' hj ha h =>
      cases hb.symm.trans hb'
      refine ⟨⟨a, List.mem_iff_getElem?.2 ⟨j, ?_⟩, h⟩, rfl⟩
      rw [List.getElem?_take, if_pos hj, ha]
  · rintro ⟨⟨a, ha, h⟩, rfl⟩
    obtain ⟨j, hj⟩ := List.mem_iff_getElem?.1 ha
    rw [List.getElem?_take] at hj
    split at hj
    · exact .distinct hb ‹_› hj h
    · cases hj

end Entry

/-! ### All checks -/

/-- What is made of a value that was found does not matter for an error. -/
lemma bind_ok_eq_error_iff {ε α β : Type} {c : Except ε α} {f : α → β} {e : ε} :
    (c >>= fun a => .ok (f a)) = .error e ↔ c = .error e := by
  cases c <;> simp [bind, Except.bind]

/-- The check of a backend and what is done with it afterwards, step by step. -/
lemma check_bind {α : Type} (b : BackendDraft) (i : ℕ) (f : BackendEntry → Except Rejection α) :
    (b.check i >>= f) = BackendName.ofString b.name >>= fun name =>
      Locator.ofString b.locator >>= fun locator =>
        if b.lacksFlag then .error (.missingFlag i)
        else f { name, locator, args := b.args, options := b.options, flag := b.flag } := by
  rw [BackendDraft.check]
  rcases BackendName.ofString b.name with e | name
  · rfl
  rcases Locator.ofString b.locator with e | locator
  · rfl
  by_cases h : b.lacksFlag = true
  · simp [bind, Except.bind, h]
  · simp [bind, Except.bind, h]

/-- The checks of some backends are those of the rules for them, if the names seen are the names of
the backends before them. -/
lemma checkBackends_eq_error_iff (front : List BackendDraft) {ds : List BackendDraft}
    (he : d.entries = front ++ ds) (seen : List BackendName)
    (hs : ∀ n : BackendName, n ∈ seen ↔ n.text ∈ front.map (·.name)) (r : Rejection) :
    checkBackends front.length seen ds = .error r ↔
      d.FirstBroken ((List.range' front.length ds.length).flatMap entryRules) r := by
  induction ds generalizing front seen r with
  | nil => simp [checkBackends, not_firstBroken_nil]
  | cons b ds ih =>
    have hb : d.entries[front.length]? = some b := by rw [he]; simp
    have ht : d.entries.take front.length = front := by rw [he, List.take_left]
    rw [checkBackends, check_bind, List.length_cons, List.range'_succ, List.flatMap_cons,
      entryRules]
    refine bind_first (fun _ => backendName_eq_error_iff hb) (fun n hn => ?_) r
    refine bind_first (fun _ => locator_eq_error_iff hb) fun l hl => ?_
    refine guard_first (fun _ => breaks_flag_iff hb) fun hf => ?_
    have hn : n.text = b.name := BackendName.ofString_eq_ok_iff.1 hn
    refine guard_first (fun r => ?_) fun hd r => ?_
    · rw [breaks_distinct_iff hb, ht, List.contains_iff_mem, hs, hn]
    · rw [bind_ok_eq_error_iff]
      have hs' : ∀ m : BackendName, m ∈ n :: seen ↔ m.text ∈ (front ++ [b]).map (·.name) := by
        intro m
        rw [List.mem_cons, hs, List.map_append, List.mem_append, List.map_singleton,
          List.mem_singleton, ← hn, or_comm, BackendName.mk.injEq]
      have h := ih (front ++ [b]) (by simp [he]) (n :: seen) hs' r
      rwa [List.length_append, List.length_singleton] at h

/-- The check of the settings and what is done afterwards, step by step. -/
lemma check_timing_bind {α : Type} (d : Draft) (f : Unit → Except Rejection α) :
    (d.timing.check >>= f) = checkSetting .sampleSize (d.valueOf .sampleSize) >>= fun _ =>
      checkSetting .measurementTime (d.valueOf .measurementTime) >>= fun _ =>
        checkSetting .warmUpTime (d.valueOf .warmUpTime) >>= f := by
  show ((checkSetting .sampleSize d.timing.sampleSize >>= fun _ =>
    checkSetting .measurementTime d.timing.measurementTime >>= fun _ =>
      checkSetting .warmUpTime d.timing.warmUpTime >>= fun _ => pure ()) >>= f) = _
  simp only [bind_assoc, pure_bind, valueOf]

/-- A draft is refused because of the first rule that it breaks. -/
lemma check_eq_error_iff : d.check = .error r ↔ d.FirstBroken d.rules r := by
  rw [check, rules, List.range_eq_range', List.cons_append]
  refine bind_first (fun _ => suiteName_eq_error_iff) (fun suite _ => ?_) r
  simp only [check_timing_bind, List.cons_append, List.nil_append]
  refine bind_first (fun _ => checkSetting_eq_error_iff) fun _ _ => ?_
  refine bind_first (fun _ => checkSetting_eq_error_iff) fun _ _ => ?_
  refine bind_first (fun _ => checkSetting_eq_error_iff) fun _ _ => ?_
  refine bind_first (fun _ => checkSearchPaths_eq_error_iff) fun _ _ r => ?_
  rcases hd : d.backends with _ | ds
  · have he : d.entries = [] := by rw [entries, hd]; rfl
    simp [he, not_firstBroken_nil, bind, Except.bind]
  · have he : d.entries = ds := by rw [entries, hd]; rfl
    have h := checkBackends_eq_error_iff [] he [] (by simp) r
    rw [List.length_nil] at h
    rw [he, ← h]
    exact bind_ok_eq_error_iff

end Draft

/-! ## Drafts that are accepted -/

/-- The rules for a backend on its own. -/
structure BackendDraft.Valid (b : BackendDraft) : Prop where
  name : IsName b.name
  locator : HasMark b.locator ∧ '\x00' ∉ b.locator.toList
  flag : b.options.isSome = true → HasMark b.flag

/-- A backend as it would be written down. -/
def BackendEntry.draft (e : BackendEntry) : BackendDraft :=
  { name := e.name.text, locator := e.locator.text, args := e.args, options := e.options,
    flag := e.flag }

namespace Draft

/-- The draft keeps all rules. -/
structure Valid (d : Draft) : Prop where
  suite : IsName d.suite
  sampleSize : 10 ≤ d.timing.sampleSize ∧ d.timing.sampleSize ≤ 10000
  measurementTime : 1 ≤ d.timing.measurementTime ∧ d.timing.measurementTime ≤ 600000
  warmUpTime : 1 ≤ d.timing.warmUpTime ∧ d.timing.warmUpTime ≤ 600000
  searchPaths : ∀ dir ∈ d.searchPaths, HasMark dir
  backends : ∀ ds, d.backends = some ds → (∀ b ∈ ds, b.Valid) ∧ (ds.map (·.name)).Nodup

/-- The configuration says what the draft said; where the draft said nothing of backends, it has the
stock ones. -/
structure CarriedBy (d : Draft) (c : Config) : Prop where
  suite : c.suite.text = d.suite
  timing : c.timing = d.timing
  searchPaths : c.searchPaths = d.searchPaths
  stock : d.backends = none → c.backends = Config.stockBackends
  backends : ∀ ds, d.backends = some ds → c.backends.map BackendEntry.draft = ds

variable {d : Draft}

lemma isName_iff {s : String} : IsName s ↔ ∀ f, ¬BrokenName s f := by
  simp only [← nameFault?_eq_some_iff, ← not_exists, exists_nameFault_iff, not_not]

lemma hasMark_and_iff {s : String} :
    HasMark s ∧ '\x00' ∉ s.toList ↔ ∀ f, ¬BrokenLocator s f := by
  constructor
  · rintro ⟨hm, hn⟩ f (h | ⟨-, h⟩)
    · exact h hm
    · exact hn h
  · intro h
    have hm : HasMark s := not_not.1 fun hm => h _ (.blank hm)
    exact ⟨hm, fun hn => h _ (.nulByte hm hn)⟩

lemma mem_rules_of_entry {i : ℕ} {x : Rule} (hi : i < d.entries.length) (hx : x ∈ entryRules i) :
    x ∈ d.rules :=
  List.mem_append_right _ (List.mem_flatMap.2 ⟨i, List.mem_range.2 hi, hx⟩)

/-- A draft that keeps the rules of the list is valid. -/
lemma valid_of_keeps (h : ∀ x ∈ d.rules, d.Keeps x) : d.Valid where
  suite := isName_iff.2 fun f hf => h .suite (by simp [rules]) _ (.suite hf)
  sampleSize := not_not.1 fun hn => h (.setting .sampleSize) (by simp [rules]) _ (.setting hn)
  measurementTime :=
    not_not.1 fun hn => h (.setting .measurementTime) (by simp [rules]) _ (.setting hn)
  warmUpTime := not_not.1 fun hn => h (.setting .warmUpTime) (by simp [rules]) _ (.setting hn)
  searchPaths dir hd :=
    not_not.1 fun hn => h .searchPaths (by simp [rules]) _ (.searchPaths hd hn)
  backends := by
    intro ds hds
    have he : d.entries = ds := by rw [entries, hds]; rfl
    subst he
    have hk {i : ℕ} {x : Rule} (hi : i < d.entries.length) (hx : x ∈ entryRules i) :
        d.Keeps x := h x (mem_rules_of_entry hi hx)
    constructor
    · intro b hb
      obtain ⟨i, hi, rfl⟩ := List.mem_iff_getElem.1 hb
      have hb : d.entries[i]? = some d.entries[i] := List.getElem?_eq_getElem hi
      exact
        { name := isName_iff.2 fun f hf => hk hi (by simp [entryRules]) _ (.name hb hf)
          locator := hasMark_and_iff.2 fun f hf => hk hi (by simp [entryRules]) _ (.locator hb hf)
          flag := fun ho => not_not.1 fun hn => hk hi (by simp [entryRules]) _ (.flag hb ho hn) }
    · rw [List.nodup_iff_getElem?_ne_getElem?]
      intro j i hj hi heq
      rw [List.length_map] at hi
      have hb : d.entries[i]? = some d.entries[i] := List.getElem?_eq_getElem hi
      have ha : d.entries[j]? = some d.entries[j] := List.getElem?_eq_getElem (hj.trans hi)
      rw [List.getElem?_map, List.getElem?_map, ha, hb] at heq
      exact hk hi (by simp [entryRules]) _ (.distinct hb hj ha (Option.some.inj heq))

/-- A valid draft breaks no rule at all. -/
lemma Valid.keeps (h : d.Valid) (x : Rule) : d.Keeps x := by
  have hds {i : ℕ} {b : BackendDraft} (hb : d.entries[i]? = some b) :
      d.backends = some d.entries := by
    rcases hd : d.backends with _ | ds
    · rw [entries, hd] at hb
      cases hb
    · rw [entries, hd]
      rfl
  have hv {i : ℕ} {b : BackendDraft} (hb : d.entries[i]? = some b) : b.Valid :=
    (h.backends _ (hds hb)).1 b (List.mem_of_getElem? hb)
  intro r hr
  cases hr with
  | suite hf => exact isName_iff.1 h.suite _ hf
  | @setting s hn =>
    cases s
    · exact hn h.sampleSize
    · exact hn h.measurementTime
    · exact hn h.warmUpTime
  | searchPaths hd hn => exact hn (h.searchPaths _ hd)
  | name hb hf => exact isName_iff.1 (hv hb).name _ hf
  | locator hb hf => exact hasMark_and_iff.1 (hv hb).locator _ hf
  | flag hb ho hn => exact hn ((hv hb).flag ho)
  | distinct hb hj ha he =>
    have hn := List.nodup_iff_getElem?_ne_getElem?.1 (h.backends _ (hds hb)).2 _ _ hj
      (by rw [List.length_map]; exact (List.getElem?_eq_some_iff.1 hb).1)
    rw [List.getElem?_map, List.getElem?_map, ha, hb] at hn
    exact hn (congrArg some he)

lemma keeps_rules_iff : (∀ x ∈ d.rules, d.Keeps x) ↔ d.Valid :=
  ⟨valid_of_keeps, fun h x _ => h.keeps x⟩

/-- A draft is accepted exactly if it keeps all rules. -/
lemma exists_check_eq_ok_iff : (∃ c, d.check = .ok c) ↔ d.Valid := by
  rw [← keeps_rules_iff, ← not_not (a := ∀ x ∈ d.rules, d.Keeps x), ← exists_firstBroken_iff]
  simp only [← check_eq_error_iff]
  cases d.check <;> simp

/-! ### What an accepted draft becomes -/

lemma draft_of_check {b : BackendDraft} {i : ℕ} {e : BackendEntry} (h : b.check i = .ok e) :
    e.draft = b := by
  obtain ⟨n, hn, h⟩ := exists_of_bind_ok h
  obtain ⟨l, hl, h⟩ := exists_of_bind_ok h
  split at h
  · cases h
  · cases h
    rw [BackendEntry.draft, BackendName.ofString_eq_ok_iff.1 hn, Locator.ofString_eq_ok_iff.1 hl]

lemma map_draft_of_checkBackends {ds : List BackendDraft} {i : ℕ} {seen : List BackendName}
    {es : List BackendEntry} (h : checkBackends i seen ds = .ok es) :
    es.map BackendEntry.draft = ds := by
  induction ds generalizing i seen es with
  | nil =>
    cases h
    rfl
  | cons b ds ih =>
    obtain ⟨e, he, h⟩ := exists_of_bind_ok h
    split at h
    · cases h
    · obtain ⟨es, hes, h⟩ := exists_of_bind_ok h
      cases h
      rw [List.map_cons, draft_of_check he, ih hes]

lemma carriedBy_of_check {c : Config} (h : d.check = .ok c) : d.CarriedBy c := by
  obtain ⟨suite, hs, h⟩ := exists_of_bind_ok h
  obtain ⟨-, -, h⟩ := exists_of_bind_ok h
  obtain ⟨-, -, h⟩ := exists_of_bind_ok h
  have hs := SuiteName.ofString_eq_ok_iff.1 hs
  rcases hd : d.backends with _ | ds
  · rw [hd] at h
    cases h
    exact ⟨hs, rfl, rfl, fun _ => rfl, by simp [hd]⟩
  · rw [hd] at h
    obtain ⟨es, hes, h⟩ := exists_of_bind_ok h
    cases h
    refine ⟨hs, rfl, rfl, by simp [hd], fun xs hx => ?_⟩
    cases hd.symm.trans hx
    exact map_draft_of_checkBackends hes

/-- A rejection names the field that the rule is about, and for a missing flag also the index of the
backend. -/
lemma Breaks.field {x : Rule} {r : Rejection} (h : d.Breaks x r) :
    r.field = x.field ∧ ∀ i, x = .flag i → r.context = s!"backend at index {i}" := by
  cases h with
  | @setting s _ => cases s <;> exact ⟨rfl, nofun⟩
  | flag _ _ _ =>
    refine ⟨rfl, fun i hi => ?_⟩
    cases hi
    rfl
  | _ => exact ⟨rfl, nofun⟩

/-- **Which drafts are accepted, and why others are not.**  A draft is accepted exactly if it keeps
all rules, and then the configuration says what the draft said, with the stock backends where it
said nothing of backends.  A draft is refused because of the first rule that it breaks, in the order
of `Draft.rules`: so a backend whose name was given before is refused after all faults of the
backends up to it, and before those of the next one.  The rejection names the field that the rule is
about. -/
theorem check_first_broken (d : Draft) :
    ((∃ c, d.check = .ok c) ↔ d.Valid) ∧
    (∀ c, d.check = .ok c → d.CarriedBy c) ∧
    (∀ r, d.check = .error r ↔ d.FirstBroken d.rules r) ∧
    ∀ x r, d.Breaks x r →
      r.field = x.field ∧ ∀ i, x = .flag i → r.context = s!"backend at index {i}" :=
  ⟨exists_check_eq_ok_iff, fun _ => carriedBy_of_check, fun _ => check_eq_error_iff,
    fun _ _ => Breaks.field⟩

/-- A draft whose third backend has the name of the first one, and whose fourth has a bad name. -/
def flawed : Draft :=
  { suite := "flawed"
    backends := some
      [{ name := "one", locator := "tool" }, { name := "two", locator := "tool" },
        { name := "one", locator := "tool" }, { name := "fo ur", locator := "tool" }] }

/-- The same draft with the first two backends only. -/
def mended : Draft := { flawed with backends := flawed.backends.map (List.take 2) }

/-- The repeated name is reported, and not the bad one after it; without these two the draft is
accepted. -/
theorem check_first_broken_flawed :
    flawed.FirstBroken flawed.rules (.duplicateBackend "one") ∧
      flawed.check = .error (.duplicateBackend "one") ∧ ¬flawed.Valid ∧ mended.Valid ∧
      ∃ c, mended.check = .ok c ∧ c.backends.map BackendEntry.draft =
        [{ name := "one", locator := "tool" }, { name := "two", locator := "tool" }] := by
  have he : flawed.check = .error (.duplicateBackend "one") := by decide +kernel
  obtain ⟨hv, -, hf, -⟩ := check_first_broken flawed
  obtain ⟨hm, hc, -, -⟩ := check_first_broken mended
  have hn : ¬flawed.Valid := by
    rw [← hv]
    rintro ⟨c, hc⟩
    rw [he] at hc
    cases hc
  have ho : mended.check.isOk = true := by decide +kernel
  rcases h : mended.check with r | c
  · rw [h] at ho
    cases ho
  · exact ⟨(hf _).1 he, he, hn, hm.1 ⟨c, h⟩, c, rfl, (hc c h).backends _ rfl⟩

end Draft

end BenchRoster
