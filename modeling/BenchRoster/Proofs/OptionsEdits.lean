/-
# Options documents that say the same

An options document may have its entries in any order and entries that nobody knows.  An entry that
is known is refused when it is repeated, but for the names in the two tables, of which the last
value counts.

* `Options.layout` is the layout of an options document, and `follows_options` says that options are
  read by it;
* `vars_of_child` up to `compilation_of_child` find what is read for a place right inside a record,
  and `Options.tables_of_site` puts them together for the two tables;
* `Options.read_tablesDocument` is about the document that sets just these tables;
* `Options.read_edited` says which differences between documents count.
-/
import BenchRoster.Options.Writing
import BenchRoster.Proofs.JsonEdits
import BenchRoster.Proofs.JsonSpelling
import BenchRoster.Proofs.OptionsViews

namespace BenchRoster

open Json (Child Follows Layout Site Tree textEntries follows_choice follows_flag follows_record)
open Json.View (addField entries entries_field separate_one separate_two table_textEntries)

variable {α : Type}

/-! ## The layout of options documents -/

def ParserOptions.layout : Layout := .record [("syntax", .leaf), ("jsx", .leaf), ("tsx", .leaf)]

def Globals.layout : Layout := .record [("vars", .table), ("envs", .table)]

def Optimizer.layout : Layout := .record [("globals", Globals.layout)]

def Passes.layout : Layout := .record [("optimizer", Optimizer.layout)]

def Compilation.layout : Layout :=
  .record [("parser", ParserOptions.layout), ("transform", Passes.layout)]

/-- What is where in an options document. -/
def Options.layout : Layout := .record [("jsc", Compilation.layout)]

lemma separate_parserOptions : Json.View.Separate (ParserOptions.fields (m := Json.View)) :=
  .cons (.pair (by decide) (.of_map fun _ _ => rfl) (.of_map fun _ _ => rfl)
      (.of_map (fun _ _ => rfl) (fun _ _ => rfl) fun _ _ _ => rfl))
    (by decide) (.of_map fun _ _ => rfl)
    (List.forall_mem_cons.2 ⟨.of_map (fun _ _ => rfl) (fun _ _ => rfl) fun _ _ _ => rfl,
      List.forall_mem_singleton.2 (.of_map (fun _ _ => rfl) (fun _ _ => rfl) fun _ _ _ => rfl)⟩)

lemma follows_parserOptions : Follows ParserOptions.layout (ParserOptions.read : Json.View _) := by
  unfold ParserOptions.read
  exact follows_record (.cons ⟨rfl, (follows_choice _).map _⟩ (.cons ⟨rfl, follows_flag.map _⟩
    (.cons ⟨rfl, follows_flag.map _⟩ .nil))) separate_parserOptions _ _ fun _ => ⟨_, rfl⟩

lemma follows_globals : Follows Globals.layout (Globals.read : Json.View _) := by
  unfold Globals.read
  exact follows_record (.cons ⟨rfl, .map .table _⟩ (.cons ⟨rfl, .map .table _⟩ .nil))
    (separate_two (by decide) _ _) _ _ fun _ => ⟨_, rfl⟩

lemma follows_optimizer : Follows Optimizer.layout (Optimizer.read : Json.View _) := by
  unfold Optimizer.read
  exact follows_record (.cons ⟨rfl, follows_globals.optional.map _⟩ .nil)
    (separate_one _ _) _ _ fun _ => ⟨_, rfl⟩

lemma follows_passes : Follows Passes.layout (Passes.read : Json.View _) := by
  unfold Passes.read
  exact follows_record (.cons ⟨rfl, follows_optimizer.optional.map _⟩ .nil)
    (separate_one _ _) _ _ fun _ => ⟨_, rfl⟩

lemma follows_compilation : Follows Compilation.layout (Compilation.read : Json.View _) := by
  unfold Compilation.read
  exact follows_record
    (.cons ⟨rfl, follows_parserOptions.map _⟩ (.cons ⟨rfl, follows_passes.map _⟩ .nil))
    (separate_two (by decide) _ _) _ _ fun _ => ⟨_, rfl⟩

/-- Options documents have their layout. -/
lemma follows_options : Follows Options.layout (Options.read : Json.View _) := by
  unfold Options.read
  exact follows_record (.cons ⟨rfl, follows_compilation.map _⟩ .nil)
    (separate_one _ _) _ _ fun _ => ⟨_, rfl⟩

/-! ## What is found where -/

section

variable {child : Tree → Tree} {v : Tree}

lemma compilation_of_child (hc : Child ["jsc"] "jsc" child) {o : Options}
    (h : (Options.read : Json.View _) (child v) = some o) :
    (Compilation.read : Json.View _) v = some o.compilation := by
  unfold Options.read at h
  obtain ⟨y, hy, hx⟩ := Json.View.of_child_one hc h
  cases hx
  exact hy

lemma passes_of_child (hc : Child ["parser", "transform"] "transform" child) {c : Compilation}
    (h : (Compilation.read : Json.View _) (child v) = some c) :
    (Passes.read : Json.View _) v = some c.passes := by
  unfold Compilation.read at h
  obtain ⟨y, z, hz, hx⟩ := Json.View.of_child_second (by decide) hc h
  cases hx
  exact hz

lemma optimizer_of_child (hc : Child ["optimizer"] "optimizer" child) {p : Passes}
    (h : (Passes.read : Json.View _) (child v) = some p) :
    Json.View.optional (Optimizer.read : Json.View _) v = some p.optimizer := by
  unfold Passes.read at h
  obtain ⟨y, hy, hx⟩ := Json.View.of_child_one hc h
  cases hx
  exact hy

lemma globals_of_child (hc : Child ["globals"] "globals" child) {o : Optimizer}
    (h : (Optimizer.read : Json.View _) (child v) = some o) :
    Json.View.optional (Globals.read : Json.View _) v = some o.globals := by
  unfold Optimizer.read at h
  obtain ⟨y, hy, hx⟩ := Json.View.of_child_one hc h
  cases hx
  exact hy

lemma vars_of_child (hc : Child ["vars", "envs"] "vars" child) {g : Globals}
    (h : (Globals.read : Json.View _) (child v) = some g) : Json.View.table v = some g.vars := by
  unfold Globals.read at h
  obtain ⟨y, z, hy, hx⟩ := Json.View.of_child_first (by decide) hc h
  cases hx
  exact hy

lemma envs_of_child (hc : Child ["vars", "envs"] "envs" child) {g : Globals}
    (h : (Globals.read : Json.View _) (child v) = some g) : Json.View.table v = some g.envs := by
  unfold Globals.read at h
  obtain ⟨y, z, hz, hx⟩ := Json.View.of_child_second (by decide) hc h
  cases hx
  exact hz

end

/-! ### Tables -/

/-- The tables of globals under their keys. -/
def Globals.tables (g : Globals) : List (String × Table) := [("vars", g.vars), ("envs", g.envs)]

section

variable {path : List String} {hole : Tree → Tree} {v : Tree}

/-- A record with a table in it is not null. -/
lemma optional_of_site {known : List (String × Layout)} (hs : Site (.record known) path hole .table)
    (view : Json.View α) : Json.View.optional view (hole v) = (view (hole v)).map some := by
  cases hs with
  | inside _ hc _ => exact Json.View.optional_of_child hc view _

lemma ParserOptions.not_site : ¬Site ParserOptions.layout path hole .table := by
  rintro (_ | ⟨hk, -, hs⟩)
  have hl : ∀ x ∈ [("syntax", Layout.leaf), ("jsx", .leaf), ("tsx", .leaf)], x.2 = .leaf := by simp
  cases (hl _ hk : _ = Layout.leaf)
  cases hs

lemma Globals.tables_of_site (hs : Site Globals.layout path hole .table) {g : Globals}
    (h : (Globals.read : Json.View _) (hole v) = some g) :
    ∃ x ∈ g.tables, path = [x.1] ∧ Json.View.table v = some x.2 := by
  cases hs with
  | inside hk hc hs =>
    rcases List.mem_pair.1 hk with hk | hk <;> cases hk <;> cases hs
    · exact ⟨_, List.mem_cons_self, rfl, vars_of_child hc h⟩
    · exact ⟨_, List.mem_cons_of_mem _ List.mem_cons_self, rfl, envs_of_child hc h⟩

lemma Optimizer.tables_of_site (hs : Site Optimizer.layout path hole .table) {o : Optimizer}
    (h : (Optimizer.read : Json.View _) (hole v) = some o) :
    ∃ g, o.globals = some g ∧
      ∃ x ∈ g.tables, path = ["globals", x.1] ∧ Json.View.table v = some x.2 := by
  cases hs with
  | inside hk hc hs =>
    cases List.mem_singleton.1 hk
    have hg := globals_of_child hc h
    rw [optional_of_site hs] at hg
    obtain ⟨g, hg, ho⟩ := Option.map_eq_some_iff.1 hg
    obtain ⟨x, hx, rfl, hv⟩ := Globals.tables_of_site hs hg
    exact ⟨g, ho.symm, x, hx, rfl, hv⟩

lemma Passes.tables_of_site (hs : Site Passes.layout path hole .table) {p : Passes}
    (h : (Passes.read : Json.View _) (hole v) = some p) :
    ∃ g, p.optimizer.bind (·.globals) = some g ∧
      ∃ x ∈ g.tables, path = ["optimizer", "globals", x.1] ∧ Json.View.table v = some x.2 := by
  cases hs with
  | inside hk hc hs =>
    cases List.mem_singleton.1 hk
    have ho := optimizer_of_child hc h
    rw [optional_of_site hs] at ho
    obtain ⟨o, ho, hp⟩ := Option.map_eq_some_iff.1 ho
    obtain ⟨g, hg, x, hx, rfl, hv⟩ := Optimizer.tables_of_site hs ho
    exact ⟨g, by rw [← hp, Option.bind_some, hg], x, hx, rfl, hv⟩

/-- **There are two tables in an options document**, and they are those of the globals. -/
lemma Options.tables_of_site (hs : Site Options.layout path hole .table) {o : Options}
    (h : (Options.read : Json.View _) (hole v) = some o) :
    ∃ g, o.globals = some g ∧
      ∃ x ∈ g.tables, path = ["jsc", "transform", "optimizer", "globals", x.1] ∧
        Json.View.table v = some x.2 := by
  cases hs with
  | inside hk hc hs =>
    cases List.mem_singleton.1 hk
    have h := compilation_of_child hc h
    cases hs with
    | inside hk hc hs =>
      rcases List.mem_pair.1 hk with hk | hk <;> cases hk
      · exact absurd hs ParserOptions.not_site
      · obtain ⟨g, hg, x, hx, rfl, hv⟩ := Passes.tables_of_site hs (passes_of_child hc h)
        exact ⟨g, hg, x, hx, rfl, hv⟩

end

/-! ### The document of two tables -/

/-- The document that sets two tables, and nothing else. -/
def Options.tablesDocument (vars envs : List (String × String)) : Tree :=
  .object [(some "jsc", .object [(some "transform", .object [(some "optimizer", .object
    [(some "globals", .object
      [(some "vars", .object (textEntries vars)), (some "envs", .object (textEntries envs))])])])])]

lemma Options.read_tablesDocument (vars envs : List (String × String)) :
    (Options.read : Json.View _) (tablesDocument vars envs) =
      some (withGlobals ⟨.ofList vars, .ofList envs⟩) := by
  have hg : (Globals.read : Json.View _) (.object [(some "vars", .object (textEntries vars)),
      (some "envs", .object (textEntries envs))]) = some ⟨.ofList vars, .ofList envs⟩ := by
    change (entries (addField Globals.fields) (none, none) _).bind _ = _
    rw [entries_field rfl rfl (congrArg (Option.map _) (table_textEntries vars)),
      entries_field rfl rfl (congrArg (Option.map _) (table_textEntries envs))]
    rfl
  generalize hes : [(some "vars", Tree.object (textEntries vars)),
      (some "envs", .object (textEntries envs))] = es at hg
  have ho : (Optimizer.read : Json.View _) (.object [(some "globals", .object es)]) =
      some ⟨some ⟨.ofList vars, .ofList envs⟩⟩ := by
    change (entries (addField Optimizer.fields) none _).bind _ = _
    rw [entries_field rfl rfl (congrArg (Option.map _) (congrArg (Option.map some) hg))]
    rfl
  have hp : (Passes.read : Json.View _)
      (.object [(some "optimizer", .object [(some "globals", .object es)])]) =
        some ⟨some ⟨some ⟨.ofList vars, .ofList envs⟩⟩⟩ := by
    change (entries (addField Passes.fields) none _).bind _ = _
    rw [entries_field rfl rfl (congrArg (Option.map _) (congrArg (Option.map some) ho))]
    rfl
  have hc : (Compilation.read : Json.View _) (.object [(some "transform",
      .object [(some "optimizer", .object [(some "globals", .object es)])])]) =
        some (withGlobals ⟨.ofList vars, .ofList envs⟩).compilation := by
    change (entries (addField Compilation.fields) (none, none) _).bind _ = _
    rw [entries_field rfl rfl (congrArg (Option.map _) hp)]
    rfl
  change (entries (addField Options.fields) none _).bind _ = _
  rw [hes, entries_field rfl rfl (congrArg (Option.map _) hc)]
  rfl

/-! ## Edited documents -/

namespace Options

/-- An edit that says nothing new: the entries of an object whose keys differ are put in another
order, or an entry that a record does not know is put in. -/
inductive Edit : Tree → Tree → Prop
  | reordered {v w : Tree} (h : v.Reordered w) : Edit v w
  | undeclared {path : List String} {hole : Tree → Tree} {known : List (String × Layout)}
      {key : String} (hs : Site layout path hole (.record known)) (hk : key ∉ known.map (·.1))
      (v : Tree) (es₁ es₂ : List (Option String × Tree)) :
      Edit (hole (.object (es₁ ++ es₂))) (hole (.object (es₁ ++ (some key, v) :: es₂)))

lemma Edit.read_eq {v w : Tree} (h : Edit v w) :
    (Options.read : Json.View _) v = (Options.read : Json.View _) w := by
  cases h with
  | reordered h => exact follows_options.reordered h
  | undeclared hs hk v es₁ es₂ => exact (follows_options.undeclared hs hk v es₁ es₂).symm

/-- Edits are made and taken back without a difference. -/
lemma read_eq_of_edits {v w : Tree} (h : Relation.EqvGen Edit v w) :
    (Options.read : Json.View _) v = (Options.read : Json.View _) w := by
  induction h with
  | rel _ _ h => exact h.read_eq
  | refl => rfl
  | symm _ _ _ ih => exact ih.symm
  | trans _ _ _ _ _ ih₁ ih₂ => exact ih₁.trans ih₂

/-- What is read from a text is what is read from any tree that it holds. -/
lemma readDocument_eq_ok_iff {v : Tree} {s : String} (hv : v.Fills s) {o : Options} :
    Json.readDocument Options.read s = .ok o ↔ (Options.read : Json.View _) v = some o := by
  rw [← sees_options.readDocument hv]
  cases Json.readDocument Options.read s <;> simp [Except.toOption]

/-- **Which differences between options documents count.**

A document that is read holds a tree.  Whatever edits are made or taken back, anywhere in it and in
any number, there are texts that hold the outcome, and the same options are read from each of them,
with the same options file.

A document in which some record has an entry that it knows twice is refused.

In the two tables, keys may be repeated.  A document that sets them, with any entries that are
texts, is read, and its globals have what the entries say last of each key.  In other documents,
too, these are the values that the globals have; whether the document is read does not depend on the
entries of the tables, and the options depend on nothing but their last values. -/
theorem read_edited :
    (∀ s o, Json.readDocument Options.read s = .ok o → (∃ v : Tree, v.Fills s) ∧
      ∀ v w : Tree, v.Fills s → Relation.EqvGen Edit v w → (∃ t, w.Fills t) ∧
        ∀ t, w.Fills t → Json.readDocument Options.read t = .ok o ∧
          (Json.readDocument Options.read t).map toJson = .ok o.toJson) ∧
    (∀ path hole known, Site layout path hole (.record known) → ∀ key ∈ known.map (·.1),
      ∀ v w es₁ es₂ es₃ s,
        (hole (.object (es₁ ++ (some key, v) :: es₂ ++ (some key, w) :: es₃))).Fills s →
          ∃ f, Json.readDocument Options.read s = .error f) ∧
    (∀ vars envs s, (tablesDocument vars envs).Fills s →
      ∃ g, Json.readDocument Options.read s = .ok (withGlobals g) ∧
        (∀ key, g.vars.find? key = lastValue? vars key) ∧
          ∀ key, g.envs.find? key = lastValue? envs key) ∧
    (∀ path hole, Site layout path hole .table → ∀ xs ys s t,
      (hole (.object (textEntries xs))).Fills s → (hole (.object (textEntries ys))).Fills t →
        ((∃ o, Json.readDocument Options.read s = .ok o) →
          ∃ o, Json.readDocument Options.read t = .ok o) ∧
        ((∀ key, lastValue? xs key = lastValue? ys key) → ∀ o,
          Json.readDocument Options.read s = .ok o → Json.readDocument Options.read t = .ok o)) ∧
    ∀ path hole, Site layout path hole .table → ∀ v s o, (hole v).Fills s →
      Json.readDocument Options.read s = .ok o → ∃ xs g, v = .object (textEntries xs) ∧
        o.globals = some g ∧ ∃ x ∈ g.tables,
          path = ["jsc", "transform", "optimizer", "globals", x.1] ∧
            ∀ key, x.2.find? key = lastValue? xs key := by
  refine ⟨fun s o h => ⟨sees_options.exists_fills h, fun v w hv he =>
      ⟨w.exists_fills, fun t ht => ?_⟩⟩,
    fun path hole known hs key hk v w es₁ es₂ es₃ s hf => ?_,
    fun vars envs s hf => ⟨⟨.ofList vars, .ofList envs⟩, ?_, Table.find?_ofList vars,
      Table.find?_ofList envs⟩,
    fun path hole hs xs ys s t hx hy => ⟨fun h => ?_, fun hxy o h => ?_⟩,
    fun path hole hs v s o hf h => ?_⟩
  · have hr : Json.readDocument Options.read t = .ok o := by
      rw [readDocument_eq_ok_iff ht, ← read_eq_of_edits he, ← readDocument_eq_ok_iff hv, h]
    exact ⟨hr, by rw [hr]; rfl⟩
  · rcases hr : Json.readDocument Options.read s with f | o
    · exact ⟨f, rfl⟩
    · rw [readDocument_eq_ok_iff hf, follows_options.repeated hs hk] at hr
      cases hr
  · exact (readDocument_eq_ok_iff hf).2 (read_tablesDocument vars envs)
  · simp only [readDocument_eq_ok_iff hx, readDocument_eq_ok_iff hy,
      ← Option.isSome_iff_exists] at h ⊢
    rwa [← follows_options.isSome_table hs xs ys]
  · rw [readDocument_eq_ok_iff hx, follows_options.lastValues hs hxy] at h
    exact (readDocument_eq_ok_iff hy).2 h
  · obtain ⟨g, hg, x, hx, rfl, hv⟩ := tables_of_site hs ((readDocument_eq_ok_iff hf).1 h)
    obtain ⟨xs, rfl⟩ := Json.View.exists_textEntries hv
    rw [table_textEntries] at hv
    refine ⟨xs, g, rfl, hg, x, hx, rfl, fun key => ?_⟩
    rw [← Option.some.inj hv, Table.find?_ofList]

/-! ### A document in which a name is repeated -/

namespace Rearranging

/-- One of the names stands in its table twice. -/
def names : List (String × String) := [("A", "1"), ("B", "2"), ("A", "3")]

def plain : Tree := tablesDocument names [("C", "4")]

/-- An entry that is the only one of its object. -/
def only (key : String) (v : Tree) : Tree := .object [(some key, v)]

lemma child_only (keys : List String) (key : String) : Child keys key (only key) :=
  .entry [] []

lemma site_passes : Site layout ["jsc", "transform"]
    (fun v => only "jsc" (only "transform" v)) Passes.layout := by
  have hp : Site Compilation.layout ["transform"] (only "transform") Passes.layout :=
    .inside (List.mem_cons_of_mem _ (List.mem_singleton_self _)) (child_only _ _) .here
  exact .inside (List.mem_singleton_self _) (child_only _ _) hp

/-- The optimizer with the tables in the other order. -/
def optimizer : Option String × Tree :=
  (some "optimizer", only "globals" (.object [
    (some "envs", .object (textEntries [("C", "4")])),
    (some "vars", .object (textEntries names))]))

/-- A note that nobody knows, with the same key as a record beside it. -/
def note : Tree := .object [(some "optimizer", .list [.null, .flag true]), (none, .number)]

def annotated : Tree := only "jsc" (only "transform" (.object [(some "note", note), optimizer]))

/-- The passes twice. -/
def doubled : Tree :=
  only "jsc" (.object [(some "transform", .object [optimizer]), (some "parser", .object []),
    (some "transform", .object [])])

lemma reordered_only {key : String} {v w : Tree} (h : v.Reordered w) :
    (only key v).Reordered (only key w) :=
  @Tree.Reordered.entry key v w [] [] h

lemma edits_annotated : Relation.EqvGen Edit plain annotated := by
  have ho : plain.Reordered (only "jsc" (only "transform" (.object [optimizer]))) := by
    have hg : Tree.Reordered
        (.object [(some "vars", .object (textEntries names)),
          (some "envs", .object (textEntries [("C", "4")]))])
        (.object [(some "envs", .object (textEntries [("C", "4")])),
          (some "vars", .object (textEntries names))]) :=
      .entries (.swap _ _ []) (by decide)
    exact reordered_only (reordered_only (reordered_only (reordered_only hg)))
  exact .trans _ _ _ (.rel _ _ (.reordered ho))
    (.rel _ _ (.undeclared site_passes (by decide) note [] [optimizer]))

end Rearranging

open Rearranging in
/-- The edited document is read as the plain one is, with the last value of the repeated name; the
one with a repeated record is refused. -/
theorem read_edited_annotated :
    Relation.EqvGen Edit plain annotated ∧
      ∃ (s t : String) (g : Globals), plain.Fills s ∧ annotated.Fills t ∧
        Json.readDocument Options.read s = .ok (withGlobals g) ∧
        Json.readDocument Options.read t = .ok (withGlobals g) ∧
        g.vars.find? "A" = some "3" ∧ g.vars.find? "B" = some "2" ∧ g.envs.find? "C" = some "4" ∧
        ∃ u f, doubled.Fills u ∧ Json.readDocument Options.read u = .error f := by
  obtain ⟨hedits, hrepeated, htables, -⟩ := read_edited
  obtain ⟨s, hs⟩ := plain.exists_fills
  obtain ⟨g, hg, hvars, henvs⟩ := htables names [("C", "4")] s hs
  obtain ⟨⟨t, ht⟩, hread⟩ := (hedits s _ hg).2 plain annotated hs edits_annotated
  obtain ⟨u, hu⟩ := doubled.exists_fills
  obtain ⟨f, hf⟩ := hrepeated ["jsc"] _ _
    (.inside (List.mem_singleton_self _) (child_only _ _) .here) "transform" (by decide)
    (.object [optimizer]) (.object []) [] [(some "parser", .object [])] [] u hu
  refine ⟨edits_annotated, s, t, g, hs, ht, hg, (hread t ht).1, ?_, ?_, ?_, u, f, hu, hf⟩
  · rw [hvars]
    decide
  · rw [hvars]
    decide
  · rw [henvs]
    decide

end Options

end BenchRoster
