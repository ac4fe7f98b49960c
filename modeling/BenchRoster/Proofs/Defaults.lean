/-
# Defaults of configurations and options

A configuration that leaves a section out is the one that has the section without entries, and a
section that leaves an entry out is the one in which its default is written; the same goes for
options.  The defaults stand in several places of the program, and this is what they have to agree
on, whatever else a document says.

* the readers of both kinds of documents are blind to positions: `blind_draftFields` and the lemmas
  before it;
* the `omittable` lemmas say which fields may be left out, and what stands for them;
* `Config.omissions` and `Options.omissions` are the places where something may be left out;
* `defaults_agree` is the main statement; `not_defaults_agree` says why it does not speak of aliases
  to the section that is completed, and `not_defaults_agree_limited` why a document with many
  aliases may be refused without that section.
-/
import BenchRoster.Proofs.AliasLimits
import BenchRoster.Proofs.Drafts
import BenchRoster.Proofs.JsonOmissions
import BenchRoster.Proofs.Omissions
import BenchRoster.Proofs.OptionsViews

namespace BenchRoster

open Yaml (Decode Document Node Scalar Mark Completed Failure)
open Yaml.Decode

/-! ## Readers that are blind to positions -/

section

variable {shared : ℕ → Prop} {d e : Document}

lemma blind_parserOptions (h : d.Beside shared e) :
    Blind shared d e (ParserOptions.read (m := Decode)) := by
  unfold ParserOptions.read
  refine blind_record h ?_ _ _ _
  simp only [ParserOptions.fields, List.forall_mem_cons]
  exact ⟨blind_map (blind_choice h _) _, blind_map (blind_bare h _ _ _) _,
    blind_map (blind_bare h _ _ _) _, List.forall_mem_nil _⟩

lemma blind_globals (h : d.Beside shared e) : Blind shared d e (Globals.read (m := Decode)) := by
  unfold Globals.read
  refine blind_record h ?_ _ _ _
  simp only [Globals.fields, List.forall_mem_cons]
  exact ⟨blind_map (blind_table h) _, blind_map (blind_table h) _, List.forall_mem_nil _⟩

lemma blind_optimizer (h : d.Beside shared e) :
    Blind shared d e (Optimizer.read (m := Decode)) := by
  unfold Optimizer.read
  refine blind_record h ?_ _ _ _
  simp only [Optimizer.fields, List.forall_mem_singleton]
  exact blind_map (blind_optional h (blind_globals h)) _

lemma blind_passes (h : d.Beside shared e) : Blind shared d e (Passes.read (m := Decode)) := by
  unfold Passes.read
  refine blind_record h ?_ _ _ _
  simp only [Passes.fields, List.forall_mem_singleton]
  exact blind_map (blind_optional h (blind_optimizer h)) _

lemma blind_compilationFields (h : d.Beside shared e) :
    ∀ f ∈ Compilation.fields (m := Decode), Blind shared d e f.read := by
  simp only [Compilation.fields, List.forall_mem_cons]
  exact ⟨blind_map (blind_parserOptions h) _, blind_map (blind_passes h) _, List.forall_mem_nil _⟩

lemma blind_optionsFields (h : d.Beside shared e) :
    ∀ f ∈ Options.fields (m := Decode), Blind shared d e f.read := by
  simp only [Options.fields, List.forall_mem_singleton, Compilation.read]
  exact blind_map (blind_record h (blind_compilationFields h) _ _ _) _

lemma blind_options (h : d.Beside shared e) : Blind shared d e (Options.read (m := Decode)) := by
  unfold Options.read
  exact blind_record h (blind_optionsFields h) _ _ _

lemma blind_timingFields (h : d.Beside shared e) :
    ∀ f ∈ Timing.fields, Blind shared d e f.read := by
  simp only [Timing.fields, List.forall_mem_cons]
  exact ⟨blind_map (blind_bare h _ _ _) _, blind_map (blind_bare h _ _ _) _,
    blind_map (blind_bare h _ _ _) _, List.forall_mem_nil _⟩

lemma blind_searchPathsFields (h : d.Beside shared e) :
    ∀ f ∈ searchPathsFields, Blind shared d e f.read := by
  simp only [searchPathsFields, List.forall_mem_singleton]
  exact blind_map (blind_list h (blind_textAs h _)) _

lemma blind_backendDraft (h : d.Beside shared e) : Blind shared d e BackendDraft.read := by
  refine blind_record h ?_ _ _ _
  simp only [BackendDraft.fields, List.forall_mem_cons]
  exact ⟨blind_map (blind_textAs h _) _, blind_map (blind_textAs h _) _,
    blind_map (blind_list h (blind_textAs h _)) _,
    blind_map (blind_optional h (blind_options h)) _, blind_map (blind_textAs h _) _,
    List.forall_mem_nil _⟩

lemma blind_draftFields (h : d.Beside shared e) :
    ∀ f ∈ Draft.fields, Blind shared d e f.read := by
  simp only [Draft.fields, List.forall_mem_cons]
  exact ⟨blind_map (blind_textAs h _) _, blind_map (blind_record h (blind_timingFields h) _ _ _) _,
    blind_map (blind_record h (blind_searchPathsFields h) _ _ _) _,
    blind_map (blind_optional h (blind_list h (blind_backendDraft h))) _, List.forall_mem_nil _⟩

end

/-! ## Fields that may be left out -/

section

variable {m : Type → Type} [Format m] [Observed m]

lemma omittable_jsc :
    Omittable (Options.fields (m := m)) none (fun p => .ok (⟨p.getD {}⟩ : Options))
      ⟨"jsc", (·.isSome), Format.map (fun x _ => some x) Compilation.read⟩
      fun _ => some {} where
  unseen := rfl
  finish_eq
    | none, _ => rfl
  apart := List.forall_mem_singleton.2 (absurd rfl)

lemma omittable_parserOptions :
    Omittable (Compilation.fields (m := m)) (none, none)
      (fun p => .ok (Compilation.finish p))
      ⟨"parser", (·.1.isSome), Format.map (fun x p => (some x, p.2)) ParserOptions.read⟩
      fun p => (some {}, p.2) where
  unseen := rfl
  finish_eq
    | (none, _), _ => rfl
  apart :=
    List.forall_mem_cons.2 ⟨absurd rfl,
    List.forall_mem_cons.2 ⟨fun _ => .of_map (fun _ => rfl) (fun _ _ => rfl) fun _ _ => rfl,
    List.forall_mem_nil _⟩⟩

lemma omittable_transform :
    Omittable (Compilation.fields (m := m)) (none, none)
      (fun p => .ok (Compilation.finish p))
      ⟨"transform", (·.2.isSome), Format.map (fun x p => (p.1, some x)) Passes.read⟩
      fun p => (p.1, some {}) where
  unseen := rfl
  finish_eq
    | (_, none), _ => rfl
  apart :=
    List.forall_mem_cons.2 ⟨fun _ => .of_map (fun _ => rfl) (fun _ _ => rfl) fun _ _ => rfl,
    List.forall_mem_cons.2 ⟨absurd rfl, List.forall_mem_nil _⟩⟩

end

lemma omittable_sampleSize :
    Omittable Timing.fields (none, none, none)
      (fun p => .ok (Timing.finish p))
      ⟨Setting.sampleSize.field, (·.1.isSome),
        Format.map (fun x p => (some x, p.2)) (Decode.natural "usize")⟩
      fun p => (some Timing.default.sampleSize, p.2) where
  unseen := rfl
  finish_eq
    | (none, _), _ => rfl
  apart :=
    List.forall_mem_cons.2 ⟨absurd rfl,
    List.forall_mem_cons.2 ⟨fun _ => .of_map (fun _ => rfl) (fun _ _ => rfl) fun _ _ => rfl,
    List.forall_mem_cons.2 ⟨fun _ => .of_map (fun _ => rfl) (fun _ _ => rfl) fun _ _ => rfl,
    List.forall_mem_nil _⟩⟩⟩

lemma omittable_measurementTime :
    Omittable Timing.fields (none, none, none)
      (fun p => .ok (Timing.finish p))
      ⟨Setting.measurementTime.field, (·.2.1.isSome),
        Format.map (fun x p => (p.1, some x, p.2.2)) (Decode.natural "u64")⟩
      fun p => (p.1, some Timing.default.measurementTime, p.2.2) where
  unseen := rfl
  finish_eq
    | (_, none, _), _ => rfl
  apart :=
    List.forall_mem_cons.2 ⟨fun _ => .of_map (fun _ => rfl) (fun _ _ => rfl) fun _ _ => rfl,
    List.forall_mem_cons.2 ⟨absurd rfl,
    List.forall_mem_cons.2 ⟨fun _ => .of_map (fun _ => rfl) (fun _ _ => rfl) fun _ _ => rfl,
    List.forall_mem_nil _⟩⟩⟩

lemma omittable_warmUpTime :
    Omittable Timing.fields (none, none, none)
      (fun p => .ok (Timing.finish p))
      ⟨Setting.warmUpTime.field, (·.2.2.isSome),
        Format.map (fun x p => (p.1, p.2.1, some x)) (Decode.natural "u64")⟩
      fun p => (p.1, p.2.1, some Timing.default.warmUpTime) where
  unseen := rfl
  finish_eq
    | (_, _, none), _ => rfl
  apart :=
    List.forall_mem_cons.2 ⟨fun _ => .of_map (fun _ => rfl) (fun _ _ => rfl) fun _ _ => rfl,
    List.forall_mem_cons.2 ⟨fun _ => .of_map (fun _ => rfl) (fun _ _ => rfl) fun _ _ => rfl,
    List.forall_mem_cons.2 ⟨absurd rfl, List.forall_mem_nil _⟩⟩⟩

lemma omittable_searchPaths :
    Omittable searchPathsFields none (fun p => .ok (p.getD defaultSearchPaths))
      ⟨"search_paths", (·.isSome), Format.map (fun x _ => some x) (Decode.list Decode.text)⟩
      fun _ => some defaultSearchPaths where
  unseen := rfl
  finish_eq
    | none, _ => rfl
  apart := List.forall_mem_singleton.2 (absurd rfl)

lemma omittable_suite :
    Omittable Draft.fields {} (fun p => .ok p.finish)
      ⟨"suite", (·.suite.isSome),
        Format.map (fun x p => { p with suite := some x }) Decode.text⟩
      fun p => { p with suite := some defaultSuite.text } where
  unseen := rfl
  finish_eq
    | ⟨none, _, _, _⟩, _ => rfl
  apart :=
    List.forall_mem_cons.2 ⟨absurd rfl,
    List.forall_mem_cons.2 ⟨fun _ => .of_map (fun _ => rfl) (fun _ _ => rfl) fun _ _ => rfl,
    List.forall_mem_cons.2 ⟨fun _ => .of_map (fun _ => rfl) (fun _ _ => rfl) fun _ _ => rfl,
    List.forall_mem_cons.2 ⟨fun _ => .of_map (fun _ => rfl) (fun _ _ => rfl) fun _ _ => rfl,
    List.forall_mem_nil _⟩⟩⟩⟩

lemma omittable_runtime :
    Omittable Draft.fields {} (fun p => .ok p.finish)
      ⟨"runtime", (·.timing.isSome),
        Format.map (fun x p => { p with timing := some x }) Timing.read⟩
      fun p => { p with timing := some {} } where
  unseen := rfl
  finish_eq
    | ⟨_, none, _, _⟩, _ => rfl
  apart :=
    List.forall_mem_cons.2 ⟨fun _ => .of_map (fun _ => rfl) (fun _ _ => rfl) fun _ _ => rfl,
    List.forall_mem_cons.2 ⟨absurd rfl,
    List.forall_mem_cons.2 ⟨fun _ => .of_map (fun _ => rfl) (fun _ _ => rfl) fun _ _ => rfl,
    List.forall_mem_cons.2 ⟨fun _ => .of_map (fun _ => rfl) (fun _ _ => rfl) fun _ _ => rfl,
    List.forall_mem_nil _⟩⟩⟩⟩

lemma omittable_resolver :
    Omittable Draft.fields {} (fun p => .ok p.finish)
      ⟨"resolver", (·.searchPaths.isSome),
        Format.map (fun x p => { p with searchPaths := some x }) readSearchPaths⟩
      fun p => { p with searchPaths := some defaultSearchPaths } where
  unseen := rfl
  finish_eq
    | ⟨_, _, none, _⟩, _ => rfl
  apart :=
    List.forall_mem_cons.2 ⟨fun _ => .of_map (fun _ => rfl) (fun _ _ => rfl) fun _ _ => rfl,
    List.forall_mem_cons.2 ⟨fun _ => .of_map (fun _ => rfl) (fun _ _ => rfl) fun _ _ => rfl,
    List.forall_mem_cons.2 ⟨absurd rfl,
    List.forall_mem_cons.2 ⟨fun _ => .of_map (fun _ => rfl) (fun _ _ => rfl) fun _ _ => rfl,
    List.forall_mem_nil _⟩⟩⟩⟩

lemma omittable_backends :
    Omittable Draft.fields {} (fun p => .ok p.finish)
      ⟨"backends", (·.backends.isSome),
        Format.map (fun x p => { p with backends := some x })
          (Decode.optional (Decode.list BackendDraft.read))⟩
      fun p => { p with backends := some none } where
  unseen := rfl
  finish_eq
    | ⟨_, _, _, none⟩, _ => rfl
  apart :=
    List.forall_mem_cons.2 ⟨fun _ => .of_map (fun _ => rfl) (fun _ _ => rfl) fun _ _ => rfl,
    List.forall_mem_cons.2 ⟨fun _ => .of_map (fun _ => rfl) (fun _ _ => rfl) fun _ _ => rfl,
    List.forall_mem_cons.2 ⟨fun _ => .of_map (fun _ => rfl) (fun _ _ => rfl) fun _ _ => rfl,
    List.forall_mem_cons.2 ⟨absurd rfl, List.forall_mem_nil _⟩⟩⟩⟩

/-! ## Values that are written for defaults -/

namespace Yaml

/-- A mapping without entries. -/
def Node.IsEmpty : Node → Prop
  | .mapping _ _ es => es = []
  | _ => False

/-- A natural number of 64 bits. -/
def Node.IsNatural (n : ℕ) : Node → Prop
  | .scalar s _ => s.bare integerTag = true ∧ natural? max64 s.text.toList = some n
  | _ => False

def Node.IsText (x : String) : Node → Prop
  | .scalar s _ => s.text = x
  | _ => False

/-- A sequence of texts. -/
def Node.IsTexts (xs : List String) : Node → Prop
  | .sequence _ _ ns => List.Forall₂ Node.IsText xs ns
  | _ => False

namespace Decode

variable {scope : Scope} {v : Node} {jumps : ℕ}

lemma record_isEmpty {α π : Type} (hv : v.IsEmpty) (name : String) (fields : List (Field Decode π))
    {blank : π} {finish : π → Except String α} {x : α} (hx : finish blank = .ok x) :
    record name fields blank finish scope v jumps = .ok (x, jumps) := by
  cases v with
  | mapping t m es =>
    obtain rfl : es = [] := hv
    rw [record_eq]
    simp only [mapping, following, entries, placed, bind, Except.bind, hx, Except.mapError]
  | _ => exact hv.elim

lemma natural_isNatural {n : ℕ} (hv : v.IsNatural n) (expected : String) :
    natural expected scope v jumps = .ok (n, jumps) := by
  cases v with
  | scalar s m =>
    simp only [natural, bare, following, hv.1, if_true, hv.2, placed, Except.mapError]
  | _ => exact hv.elim

lemma text_isText {x : String} (hv : v.IsText x) : text scope v jumps = .ok (x, jumps) := by
  cases v with
  | scalar s m =>
    obtain rfl : s.text = x := hv
    rfl
  | _ => exact hv.elim

lemma items_isText {xs : List String} {ns : List Node} (hv : List.Forall₂ Node.IsText xs ns)
    (index : ℕ) : items text scope index jumps ns = .ok (xs, jumps) := by
  induction hv generalizing index with
  | nil => rfl
  | cons hx _ ih =>
    rw [items, text_isText hx]
    dsimp only [bind, Except.bind]
    rw [ih]

lemma list_isTexts {xs : List String} (hv : v.IsTexts xs) :
    list text scope v jumps = .ok (xs, jumps) := by
  cases v with
  | sequence t m ns =>
    have hi : items text scope 0 jumps ns = .ok (xs, jumps) := items_isText hv 0
    simp only [list, following, hi, placed, Except.mapError]
  | _ => exact hv.elim

lemma map_eq_ok {α β : Type} {read : Decode α} {x : α} (h : read scope v jumps = .ok (x, jumps))
    (f : α → β) : (Format.map f read : Decode β) scope v jumps = .ok (f x, jumps) := by
  change (read scope v jumps).map _ = _
  rw [h]
  rfl

end Decode

end Yaml

/-! ## Places where entries may be left out -/

/-- The entries of a compilation that stand for the empty value when they are left out. -/
def Compilation.omissions {V : Type} (empty : V → Prop) : List (Slot V) :=
  ["parser", "transform"].map fun key => .entry ["parser", "transform"] key empty

/-- The entries of an options document that stand for the empty value when they are left out. -/
def Options.omissions {V : Type} (empty : V → Prop) : List (Slot V) :=
  .entry ["jsc"] "jsc" empty :: (Compilation.omissions empty).map (.inside ["jsc"] "jsc")

/-- The keys of the timing section. -/
def Timing.keys : List String := fields.map (·.key)

/-- The keys of a configuration document. -/
def Config.keys : List String := Draft.fields.map (·.key)

/-- The settings, which stand for their defaults when they are left out. -/
def Timing.omissions : List (Slot Node) :=
  default.settings.map fun x => .entry keys x.1.field (Node.IsNatural x.2)

/-- The two sections of a configuration that stand for the empty mapping when they are left out, and
the entries of them, which stand for their defaults. -/
def Config.omissions : List (Slot Node) :=
  .entry keys "runtime" Node.IsEmpty :: .entry keys "resolver" Node.IsEmpty ::
  .inside keys "resolver"
    (.entry ["search_paths"] "search_paths" (Node.IsTexts defaultSearchPaths)) ::
  Timing.omissions.map (.inside keys "runtime")

section

variable {shared : ℕ → Prop} {d e : Document}

lemma parserOptions_isEmpty {v : Node} (hv : v.IsEmpty) (scope : Yaml.Scope) (jumps : ℕ) :
    ParserOptions.read (m := Decode) scope v jumps = .ok ({}, jumps) := by
  unfold ParserOptions.read
  exact record_isEmpty hv _ _ rfl

lemma passes_isEmpty {v : Node} (hv : v.IsEmpty) (scope : Yaml.Scope) (jumps : ℕ) :
    Passes.read (m := Decode) scope v jumps = .ok ({}, jumps) := by
  unfold Passes.read
  exact record_isEmpty hv _ _ rfl

lemma compilation_isEmpty {v : Node} (hv : v.IsEmpty) (scope : Yaml.Scope) (jumps : ℕ) :
    Compilation.read (m := Decode) scope v jumps = .ok ({}, jumps) := by
  unfold Compilation.read
  exact record_isEmpty hv _ _ rfl

lemma timing_isEmpty {v : Node} (hv : v.IsEmpty) (scope : Yaml.Scope) (jumps : ℕ) :
    Timing.read scope v jumps = .ok ({}, jumps) :=
  record_isEmpty hv _ _ rfl

lemma searchPaths_isEmpty {v : Node} (hv : v.IsEmpty) (scope : Yaml.Scope) (jumps : ℕ) :
    readSearchPaths scope v jumps = .ok (defaultSearchPaths, jumps) :=
  record_isEmpty hv _ _ rfl

lemma fits_compilation (h : d.Beside shared e) :
    ∀ slot ∈ Compilation.omissions Node.IsEmpty,
      Fits shared d e slot (Compilation.read (m := Decode)) := by
  have hb := blind_compilationFields h
  simp only [Compilation.omissions, List.map_cons, List.map_nil, List.forall_mem_cons]
  unfold Compilation.read
  refine ⟨fits_entry h hb rfl omittable_parserOptions (fun v hv scope jumps => ?_) _,
    fits_entry h hb rfl omittable_transform (fun v hv scope jumps => ?_) _, List.forall_mem_nil _⟩
  · exact map_eq_ok (parserOptions_isEmpty hv scope jumps) _
  · exact map_eq_ok (passes_isEmpty hv scope jumps) _

lemma fits_options (h : d.Beside shared e) :
    ∀ slot ∈ Options.omissions Node.IsEmpty, Fits shared d e slot (Options.read (m := Decode)) := by
  have hb := blind_optionsFields h
  simp only [Options.omissions, List.forall_mem_cons, List.forall_mem_map]
  unfold Options.read
  refine ⟨fits_entry h hb rfl omittable_jsc (fun v hv scope jumps => ?_) _, fun slot hs => ?_⟩
  · exact map_eq_ok (compilation_isEmpty hv scope jumps) _
  · exact fits_inside (f := ⟨"jsc", _, _⟩) h hb rfl (fits_map (fits_compilation h slot hs) _) _

lemma fits_timing (h : d.Beside shared e) :
    ∀ slot ∈ Timing.omissions, Fits shared d e slot Timing.read := by
  have hb := blind_timingFields h
  simp only [Timing.omissions, Timing.settings, List.map_cons, List.map_nil, List.forall_mem_cons]
  refine ⟨fits_entry h hb rfl omittable_sampleSize (fun v hv scope jumps => ?_) _,
    fits_entry h hb rfl omittable_measurementTime (fun v hv scope jumps => ?_) _,
    fits_entry h hb rfl omittable_warmUpTime (fun v hv scope jumps => ?_) _, List.forall_mem_nil _⟩
  · exact map_eq_ok (natural_isNatural hv _) _
  · exact map_eq_ok (natural_isNatural hv _) _
  · exact map_eq_ok (natural_isNatural hv _) _

lemma fits_searchPaths (h : d.Beside shared e) :
    Fits shared d e (.entry ["search_paths"] "search_paths" (Node.IsTexts defaultSearchPaths))
      readSearchPaths := by
  refine fits_entry h (blind_searchPathsFields h) rfl omittable_searchPaths
    (fun v hv scope jumps => ?_) _
  exact map_eq_ok (list_isTexts hv) _

lemma fits_draft (h : d.Beside shared e) :
    ∀ slot ∈ Config.omissions, Fits shared d e slot Draft.read := by
  have hb := blind_draftFields h
  simp only [Config.omissions, List.forall_mem_cons, List.forall_mem_map]
  refine ⟨fits_entry h hb rfl omittable_runtime (fun v hv scope jumps => ?_) _,
    fits_entry h hb rfl omittable_resolver (fun v hv scope jumps => ?_) _, ?_, fun slot hs => ?_⟩
  · exact map_eq_ok (timing_isEmpty hv scope jumps) _
  · exact map_eq_ok (searchPaths_isEmpty hv scope jumps) _
  · exact fits_inside (f := ⟨"resolver", _, _⟩) h hb rfl (fits_map (fits_searchPaths h) _) _
  · exact fits_inside (f := ⟨"runtime", _, _⟩) h hb rfl (fits_map (fits_timing h slot hs) _) _

end

/-! ## Documents that leave entries out -/

/-- What is wrong with a definition, at no place in particular. -/
def DefinitionError.unplaced : DefinitionError → DefinitionError
  | .unreadable f => .unreadable f.unplaced
  | u => u

section

variable {shared : ℕ → Prop} {s t : String} {slot : Slot Node}

/-- The outcomes for two texts agree if the first document lacks an entry that the other one has. -/
lemma agree_of_completed {α : Type} {read : Decode α}
    (h : (Document.ofString s).Beside shared (Document.ofString t))
    (hr : Fits shared (Document.ofString s) (Document.ofString t) slot read)
    (hc : Completed shared (Document.ofString s) (Document.ofString t) slot
      (Document.ofString s).root (Document.ofString t).root) :
    Yaml.Agree (Yaml.readDocument read s) (Yaml.readDocument read t) :=
  h.agree_read (hr .root _ _ 0 hc)

lemma Config.ofString_of_agree
    (h : Yaml.Agree (Yaml.readDocument Draft.read s) (Yaml.readDocument Draft.read t)) :
    ofString s = .error (.unreadable .tooManyAliases) ∨
      (ofString s).mapError DefinitionError.unplaced =
        (ofString t).mapError DefinitionError.unplaced := by
  unfold ofString
  generalize Yaml.readDocument Draft.read s = x at h ⊢
  generalize Yaml.readDocument Draft.read t = y at h ⊢
  cases h with
  | limited y => exact .inl rfl
  | ok a => exact .inr rfl
  | error h => exact .inr (congrArg (fun f => Except.error (DefinitionError.unreadable f)) h)

/-- A document whose value is read is read as that value. -/
lemma exists_of_readDocument {α : Type} {read : Decode α} {x : α}
    (h : Yaml.readDocument read s = .ok x) :
    ∃ jumps, read ⟨Document.ofString s, .root⟩ (Document.ofString s).root 0 = .ok (x, jumps) := by
  unfold Yaml.readDocument Document.read at h
  split at h
  · obtain ⟨_, -, h⟩ := exists_of_bind_ok h
    cases h
  · cases h
  · rename_i y jumps hy
    obtain ⟨_, -, h⟩ := exists_of_bind_ok h
    cases h
    exact ⟨jumps, hy⟩

/-- What an accepted document leaves out is as in the stock configuration. -/
lemma Config.stock_of_omits {c : Config} (h : ofString s = .ok c) :
    ((Document.ofString s).Omits "suite" (Document.ofString s).root → c.suite = stock.suite) ∧
    ((Document.ofString s).Omits "runtime" (Document.ofString s).root → c.timing = stock.timing) ∧
    ((Document.ofString s).Omits "resolver" (Document.ofString s).root →
      c.searchPaths = stock.searchPaths) ∧
    ((Document.ofString s).Omits "backends" (Document.ofString s).root →
      c.backends = stock.backends) := by
  unfold ofString at h
  rcases hd : Yaml.readDocument Draft.read s with u | draft <;> rw [hd] at h
  · cases h
  · obtain ⟨jumps, hr⟩ := exists_of_readDocument hd
    have hc : draft.CarriedBy c := by
      rcases hk : draft.check with r | c' <;> simp only [hk, Except.mapError] at h
      · cases h
      · cases h
        exact Draft.carriedBy_of_check hk
    refine ⟨fun ho => ?_, fun ho => ?_, fun ho => ?_, fun ho => ?_⟩
    · obtain ⟨⟨_ | x, _, _, _⟩, hp, he⟩ := unseen_of_record omittable_suite ho hr
      · cases he
        have ht : c.suite.text = stock.suite.text := hc.suite
        cases hs : c.suite
        simp_all
      · cases hp
    · obtain ⟨⟨_, _ | x, _, _⟩, hp, he⟩ := unseen_of_record omittable_runtime ho hr
      · cases he
        exact hc.timing
      · cases hp
    · obtain ⟨⟨_, _, _ | x, _⟩, hp, he⟩ := unseen_of_record omittable_resolver ho hr
      · cases he
        exact hc.searchPaths
      · cases hp
    · obtain ⟨⟨_, _, _, _ | x⟩, hp, he⟩ := unseen_of_record omittable_backends ho hr
      · cases he
        exact hc.stock rfl
      · cases hp

end

/-! ## Options in JSON -/

/-- An object without entries. -/
def Json.Tree.IsEmpty (v : Json.Tree) : Prop := v = .object []

lemma view_compilation :
    ∀ slot ∈ Compilation.omissions Json.Tree.IsEmpty,
      Json.View.Fits slot (Compilation.read (m := Json.View)) := by
  simp only [Compilation.omissions, List.map_cons, List.map_nil, List.forall_mem_cons]
  refine ⟨Json.View.fits_entry (by decide) rfl omittable_parserOptions ?_ "JscConfig",
    Json.View.fits_entry (by decide) rfl omittable_transform ?_ "JscConfig",
    List.forall_mem_nil _⟩
  · rintro v rfl
    rfl
  · rintro v rfl
    rfl

lemma view_options :
    ∀ slot ∈ Options.omissions Json.Tree.IsEmpty,
      Json.View.Fits slot (Options.read (m := Json.View)) := by
  simp only [Options.omissions, List.forall_mem_cons, List.forall_mem_map]
  refine ⟨Json.View.fits_entry (by decide) rfl omittable_jsc ?_ "TransformOptions",
    fun slot hs => ?_⟩
  · rintro v rfl
    rfl
  · have hn : ((Options.fields (m := Json.View)).map (·.key)).Nodup := by decide
    exact Json.View.fits_inside (f := ⟨"jsc", _, _⟩) hn rfl
      (Json.View.fits_map (view_compilation slot hs) _) "TransformOptions"

/-! ## The main statement -/

open Json (Tree) in
/-- **What is left out counts as its default.**  A configuration that lacks one of the two sections,
or an entry of one, is read as with the empty section or the default entry: with the same outcome,
up to the positions in failures.  The other entries may be anything that is the same in both
documents, as far as it is known; aliases in them do not lead to where the documents differ.  As a
longer document may follow more aliases, the outcomes may differ if the first document follows too
many.  Whatever section an accepted document omits is as in the stock configuration.  Options are
read alike with and without their empty sections, from either format; from a JSON text whenever it
is accepted, as it then holds a tree. -/
theorem defaults_agree :
    (∀ slot ∈ Config.omissions, ∀ shared s t,
      (Document.ofString s).Beside shared (Document.ofString t) →
      Completed shared (Document.ofString s) (Document.ofString t) slot
        (Document.ofString s).root (Document.ofString t).root →
      Config.ofString s = .error (.unreadable .tooManyAliases) ∨
        (Config.ofString s).mapError DefinitionError.unplaced =
          (Config.ofString t).mapError DefinitionError.unplaced) ∧
    (∀ s c, Config.ofString s = .ok c →
      ((Document.ofString s).Omits "suite" (Document.ofString s).root →
        c.suite = Config.stock.suite) ∧
      ((Document.ofString s).Omits "runtime" (Document.ofString s).root →
        c.timing = Config.stock.timing) ∧
      ((Document.ofString s).Omits "resolver" (Document.ofString s).root →
        c.searchPaths = Config.stock.searchPaths) ∧
      ((Document.ofString s).Omits "backends" (Document.ofString s).root →
        c.backends = Config.stock.backends)) ∧
    (∀ slot ∈ Options.omissions Node.IsEmpty, ∀ shared s t,
      (Document.ofString s).Beside shared (Document.ofString t) →
      Completed shared (Document.ofString s) (Document.ofString t) slot
        (Document.ofString s).root (Document.ofString t).root →
      Yaml.readDocument Options.read s = .error .tooManyAliases ∨
        (Yaml.readDocument Options.read s).mapError Failure.unplaced =
          (Yaml.readDocument Options.read t).mapError Failure.unplaced) ∧
    (∀ s o, Json.readDocument Options.read s = .ok o → ∃ v : Tree, v.Fills s) ∧
    ∀ slot ∈ Options.omissions Tree.IsEmpty, ∀ (v w : Tree) s t, v.Completed slot w → v.Fills s →
      w.Fills t → (Json.readDocument Options.read s).toOption =
        (Json.readDocument Options.read t).toOption := by
  refine ⟨fun slot hslot shared s t h hc => ?_, fun s c h => Config.stock_of_omits h,
    fun slot hslot shared s t h hc => ?_, fun s o h => sees_options.exists_fills h,
    fun slot hslot v w s t hc hs ht => ?_⟩
  · exact Config.ofString_of_agree (agree_of_completed h (fits_draft h slot hslot) hc)
  · exact (agree_of_completed h (fits_options h slot hslot) hc).eq_or_mapError_eq
  · rw [sees_options.readDocument hs, sees_options.readDocument ht]
    exact view_options slot hslot v w hc

/-- A configuration that names its suite, and the same one with an empty section. -/
def plainText : String := "suite: demo\n"

def sectionText : String := "suite: demo\nruntime: \x7b\x7d\n"

/-- Options that say nothing, and the same ones with an empty compilation. -/
def noOptionsText : String := "\x7b\x7d\n"

def emptyOptionsText : String := "jsc: \x7b\x7d\n"

def emptyObjectText : String := "\x7b\x22jsc\x22: \x7b\x7d\x7d"

/-- A word outside of quotes. -/
abbrev word (s : String) (m : Mark) : Node := .scalar ⟨s, .plain, none⟩ m

/-- Nothing comes of it that the section or the entry is written. -/
theorem defaults_agree_demo :
    (Config.ofString plainText = .error (.unreadable .tooManyAliases) ∨
      (Config.ofString plainText).mapError DefinitionError.unplaced =
        (Config.ofString sectionText).mapError DefinitionError.unplaced) ∧
    (∃ c, Config.ofString plainText = .ok c ∧ c.timing = Config.stock.timing) ∧
    (Yaml.readDocument Options.read noOptionsText = .error .tooManyAliases ∨
      (Yaml.readDocument Options.read noOptionsText).mapError Failure.unplaced =
        (Yaml.readDocument Options.read emptyOptionsText).mapError Failure.unplaced) ∧
    (∃ v : Json.Tree, v.Fills noOptionsText) ∧
    (Json.readDocument Options.read noOptionsText).toOption =
      (Json.readDocument Options.read emptyObjectText).toOption := by
  obtain ⟨hconfig, hstock, hyaml, htree, hjson⟩ := defaults_agree
  refine ⟨?_, ?_, ?_, ?_, ?_⟩
  · have hs : (Document.ofString plainText).root =
        .mapping none .start ([(word "suite" .start, word "demo" ⟨7, 0, 7⟩)] ++ []) := by
      decide +kernel
    have ht : (Document.ofString sectionText).root =
        .mapping none .start ([(word "suite" .start, word "demo" ⟨7, 0, 7⟩)] ++
          (word "runtime" ⟨12, 1, 0⟩, .mapping none ⟨21, 1, 9⟩ []) :: []) := by decide +kernel
    have hb : (Document.ofString plainText).Beside (fun _ => False)
        (Document.ofString sectionText) :=
      ⟨by decide +kernel, nofun, by decide +kernel, by decide +kernel⟩
    refine hconfig _ (List.mem_cons_self ..) _ _ _ hb ?_
    rw [hs, ht]
    apply Completed.entry
    case before => exact .cons (.alike ⟨rfl, rfl⟩) .nil
    case after => exact .nil
    case omitted => simp [Document.Shows]
    case hk => rfl
    case hv => rfl
  · have hs : (Document.ofString plainText).root =
        .mapping none .start [(word "suite" .start, word "demo" ⟨7, 0, 7⟩)] := by
      decide +kernel
    have hok : (Config.ofString plainText).isOk = true := by decide +kernel
    rcases hc : Config.ofString plainText with u | c
    · rw [hc] at hok
      cases hok
    · refine ⟨c, rfl, (hstock _ c hc).2.1 ?_⟩
      rw [hs]
      exact .entries (by simp [Document.Shows]) none .start
  · have hs : (Document.ofString noOptionsText).root = .mapping none .start ([] ++ []) := by
      decide +kernel
    have ht : (Document.ofString emptyOptionsText).root =
        .mapping none .start ([] ++ (word "jsc" .start, .mapping none ⟨5, 0, 5⟩ []) :: []) := by
      decide +kernel
    have hb : (Document.ofString noOptionsText).Beside (fun _ => False)
        (Document.ofString emptyOptionsText) :=
      ⟨by decide +kernel, nofun, by decide +kernel, by decide +kernel⟩
    refine hyaml _ (List.mem_cons_self ..) _ _ _ hb ?_
    rw [hs, ht]
    apply Completed.entry
    case before => exact .nil
    case after => exact .nil
    case omitted => simp
    case hk => rfl
    case hv => rfl
  · have hok : (Json.readDocument Options.read noOptionsText).isOk = true := by decide +kernel
    rcases ho : Json.readDocument Options.read noOptionsText with f | o
    · rw [ho] at hok
      cases hok
    · exact htree _ o ho
  · have hc : Json.Tree.Completed (.entry ["jsc"] "jsc" Json.Tree.IsEmpty) (.object ([] ++ []))
        (.object ([] ++ (some "jsc", .object []) :: [])) := .entry (by simp) rfl
    refine hjson _ (List.mem_cons_self ..) _ _ _ _ hc ⟨_, ⟨_, rfl, rfl⟩, rfl⟩ ?_
    have hk : Json.Quoted (some "jsc") "jsc\x22: \x7b\x7d\x7d".toList ": \x7b\x7d\x7d".toList :=
      ⟨by decide +kernel, by decide +kernel⟩
    exact ⟨_, ⟨_, rfl, _, _, _, _, _, rfl, rfl, hk, rfl, ⟨_, rfl, rfl⟩, rfl⟩, rfl⟩

/-- The environments that the backends of a configuration put in. -/
def Config.environments (c : Config) : List (List (String × String)) :=
  c.backends.map fun b => ((b.options.bind (·.globals)).map (·.envs.entries)).getD []

/-- A configuration whose timing section is also the environment of a backend. -/
def sharedText (line : String) : String :=
  "runtime: &r\n" ++ line ++ "  warm_up_time_ms: 3000\n" ++
    "backends: [\x7bname: a, locator: b, options: " ++
    "\x7bjsc: \x7btransform: \x7boptimizer: \x7bglobals: \x7benvs: *r\x7d\x7d\x7d\x7d\x7d\x7d]\n"

/-- The default of a setting shows in the configuration when the section in which it is written is
also used elsewhere, by an alias. -/
theorem not_defaults_agree :
    Timing.default.sampleSize = 100 ∧
    (Config.ofString (sharedText "")).map Config.environments =
      .ok [[("warm_up_time_ms", "3000")]] ∧
    (Config.ofString (sharedText "  sample_size: 100\n")).map Config.environments =
      .ok [[("sample_size", "100"), ("warm_up_time_ms", "3000")]] := by
  decide +kernel

/-- A configuration can have too many aliases for its size, and no longer too many with an empty
section: the longer document may follow more of them. -/
theorem not_defaults_agree_limited :
    (Crowded.document false 206 206).read Draft.read = .error .tooManyAliases ∧
      (Crowded.document true 206 206).read Draft.read =
        .ok { backends := some (List.replicate 207 (Crowded.draft 206)) } := by
  have hcount : Crowded.aliasCount 206 206 = 42848 := rfl
  have hplain : (Crowded.document false 206 206).limit = 42700 := rfl
  have hlonger : (Crowded.document true 206 206).limit = 43000 := rfl
  refine ⟨?_, ?_⟩
  · rw [Crowded.read_document, hcount, hplain]
    rfl
  · rw [Crowded.read_document, hcount, hlonger]
    rfl

end BenchRoster
