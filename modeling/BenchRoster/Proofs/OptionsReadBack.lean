/-
# Options come back from their document

What is left out of an options file is exactly what a reader supplies: flags that are not set,
passes that are off, and tables without entries.  So the options that were written are read back,
and no two options have the same file.

* `ParserOptions.reads` up to `Options.reads` go through the levels of nesting; each follows the
  partial record of its level through the members that were written;
* `Options.read_toJson` says that the options are read back;
* `Options.toJson_faithful` adds what follows for the texts of different options.
-/
import BenchRoster.Options.Reading
import BenchRoster.Options.Writing
import BenchRoster.Proofs.ReadBack

namespace BenchRoster

open Json (Reader Reads Takes TakesAll Value Fault)

section Present

variable {σ : Type} {step : Bool × σ → List Char → Except Fault (Option (Bool × σ) × List Char)}

/-- A member may be left out where that comes to the same. -/
lemma takesAll_present {s t u : σ} {key : String} {v? : Option Value}
    {ms : List (String × Option Value)} (hv : ∀ v, v? = some v → Takes step s (key, v) t)
    (hn : v? = none → s = t) (h : TakesAll step t (presentMembers ms) u) :
    TakesAll step s (presentMembers ((key, v?) :: ms)) u := by
  cases v? with
  | none => exact hn rfl ▸ h
  | some v => exact .cons (hv v rfl) h

lemma takesAll_present_nil (s : σ) : TakesAll step s (presentMembers []) s := .nil s

end Present

/-! ## Members that may be left out -/

/-- What a reader finds of a flag. -/
def givenFlag (b : Bool) : Option Bool := if b then some true else none

lemma flagValue?_eq_some {b : Bool} {v : Value} (h : flagValue? b = some v) :
    givenFlag b = some true ∧ v = .flag true := by
  cases b with
  | false => cases h
  | true => exact ⟨rfl, (Option.some.inj h).symm⟩

lemma flagValue?_eq_none {b : Bool} (h : flagValue? b = none) : givenFlag b = none := by
  cases b with
  | false => rfl
  | true => cases h

lemma getD_givenFlag (b : Bool) : (givenFlag b).getD false = b := by
  cases b <;> rfl

/-- What a reader finds of a table. -/
def givenTable (t : Table) : Option Table := if t.isEmpty then none else some t

namespace Table

lemma toValue?_eq_some {t : Table} {v : Value} (h : t.toValue? = some v) :
    givenTable t = some t ∧ v = t.toValue := by
  rw [toValue?] at h
  rw [givenTable]
  split at h
  · cases h
  · rename_i hne
    exact ⟨if_neg hne, (Option.some.inj h).symm⟩

lemma toValue?_eq_none {t : Table} (h : t.toValue? = none) : givenTable t = none := by
  rw [toValue?] at h
  rw [givenTable]
  split at h
  · rename_i he
    exact if_pos he
  · cases h

lemma eq_empty_of_isEmpty {t : Table} (h : t.isEmpty = true) : t = Table.empty := by
  obtain ⟨_, _⟩ := t
  cases List.isEmpty_iff.1 h
  rfl

lemma getD_givenTable (t : Table) : (givenTable t).getD .empty = t := by
  rw [givenTable]
  split
  · rename_i he
    exact (eq_empty_of_isEmpty he).symm
  · rfl

end Table

/-! ## The levels of an options document -/

lemma Dialect.reads (d : Dialect) :
    Reads (Format.choice Dialect.choices : Reader Dialect) (.text d.word) d :=
  Json.reads_choice (by cases d <;> decide)

lemma ParserOptions.reads (p : ParserOptions) : Reads ParserOptions.read p.toValue p := by
  obtain ⟨d, jsx, tsx⟩ := p
  refine Json.reads_record "ParserConfig" (p := (some d, givenFlag jsx, givenFlag tsx)) ?_ ?_
  · refine .cons (t := (some d, none, none)) ?_
      (takesAll_present (t := (some d, givenFlag jsx, none)) (fun v hv => ?_) (fun hn => ?_)
        (takesAll_present (fun v hv => ?_) (fun hn => ?_) (takesAll_present_nil _)))
    · exact Json.takes_field "syntax" rfl rfl (Json.reads_map d.reads _) rfl
    · obtain ⟨hg, rfl⟩ := flagValue?_eq_some hv
      rw [hg]
      exact Json.takes_field "jsx" rfl rfl (Json.reads_map (Json.reads_flag true) _) rfl
    · rw [flagValue?_eq_none hn]
    · obtain ⟨hg, rfl⟩ := flagValue?_eq_some hv
      rw [hg]
      exact Json.takes_field "tsx" rfl rfl (Json.reads_map (Json.reads_flag true) _) rfl
    · rw [flagValue?_eq_none hn]
  · simp only [getD_givenFlag, Option.getD_some]

lemma Globals.reads (g : Globals) : Reads Globals.read g.toValue g := by
  obtain ⟨vars, envs⟩ := g
  refine Json.reads_record "GlobalPassOption" (p := (givenTable vars, givenTable envs)) ?_ ?_
  · refine takesAll_present (t := (givenTable vars, none)) (fun v hv => ?_) (fun hn => ?_)
      (takesAll_present (fun v hv => ?_) (fun hn => ?_) (takesAll_present_nil _))
    · obtain ⟨hg, rfl⟩ := Table.toValue?_eq_some hv
      rw [hg]
      exact Json.takes_field "vars" rfl rfl (Json.reads_map (Json.reads_table vars) _) rfl
    · rw [Table.toValue?_eq_none hn]
    · obtain ⟨hg, rfl⟩ := Table.toValue?_eq_some hv
      rw [hg]
      exact Json.takes_field "envs" rfl rfl (Json.reads_map (Json.reads_table envs) _) rfl
    · rw [Table.toValue?_eq_none hn]
  · simp only [Table.getD_givenTable]

lemma Optimizer.reads (o : Optimizer) : Reads Optimizer.read o.toValue o := by
  obtain ⟨g?⟩ := o
  refine Json.reads_record "OptimizerConfig" (p := g?.map some) ?_ ?_
  · refine takesAll_present (fun v hv => ?_) (fun hn => ?_) (takesAll_present_nil _)
    · obtain ⟨g, rfl, rfl⟩ := Option.map_eq_some_iff.1 hv
      exact Json.takes_field "globals" rfl rfl (Json.reads_map (Json.reads_optional g.reads) _) rfl
    · cases g? with
      | none => rfl
      | some g => cases hn
  · cases g? <;> rfl

lemma Passes.reads (p : Passes) : Reads Passes.read p.toValue p := by
  obtain ⟨o?⟩ := p
  refine Json.reads_record "TransformConfig" (p := o?.map some) ?_ ?_
  · refine takesAll_present (fun v hv => ?_) (fun hn => ?_) (takesAll_present_nil _)
    · obtain ⟨o, rfl, rfl⟩ := Option.map_eq_some_iff.1 hv
      exact Json.takes_field "optimizer" rfl rfl (Json.reads_map (Json.reads_optional o.reads) _)
        rfl
    · cases o? with
      | none => rfl
      | some o => cases hn
  · cases o? <;> rfl

lemma Compilation.reads (c : Compilation) : Reads Compilation.read c.toValue c := by
  obtain ⟨parser, passes⟩ := c
  refine Json.reads_record "JscConfig" (p := (some parser, some passes))
    (.cons (t := (some parser, none)) ?_ (.cons ?_ (.nil _))) rfl
  · exact Json.takes_field "parser" rfl rfl (Json.reads_map parser.reads _) rfl
  · exact Json.takes_field "transform" rfl rfl (Json.reads_map passes.reads _) rfl

namespace Options

lemma reads (o : Options) : Reads Options.read o.toValue o := by
  refine Json.reads_record "TransformOptions" (p := some o.compilation) (.cons ?_ (.nil _)) rfl
  exact Json.takes_field "jsc" rfl rfl (Json.reads_map o.compilation.reads _) rfl

/-- The options of an options file are read back. -/
theorem read_toJson (o : Options) : Json.readDocument Options.read o.toJson = .ok o :=
  Json.readDocument_prettyString o.reads

lemma toJson_injective {o p : Options} (h : o.toJson = p.toJson) : o = p :=
  Except.ok.inj ((o.read_toJson).symm.trans (h ▸ p.read_toJson))

/-- Options that differ in their passes only. -/
def withPasses (parser : ParserOptions) (optimizer : Option Optimizer) : Options :=
  ⟨parser, ⟨optimizer⟩⟩

/-- **An options file holds the options, and nothing else.**  Whatever the options are, they are
read back from their text, and only they have that text.  In particular a file says whether there is
an optimizer, whether that one replaces identifiers, and whether there are identifiers to replace:
for any parser, options without an optimizer, with an optimizer that replaces nothing, and with
replacements of which there are none have three different texts. -/
theorem toJson_faithful (o : Options) :
    Json.readDocument Options.read o.toJson = .ok o ∧
    (∀ p : Options, p.toJson = o.toJson ↔ p = o) ∧
    ∀ parser : ParserOptions,
      ([none, some ⟨none⟩, some ⟨some ⟨.empty, .empty⟩⟩].map fun x =>
        (withPasses parser x).toJson).Nodup := by
  refine ⟨o.read_toJson, fun p => ⟨toJson_injective, fun h => h ▸ rfl⟩, fun parser => ?_⟩
  have hd : ([none, some ⟨none⟩, some ⟨some ⟨.empty, .empty⟩⟩] :
      List (Option Optimizer)).Nodup := by decide
  refine List.Pairwise.map _ (fun x y hne h => hne ?_) hd
  exact congrArg (fun p : Options => p.compilation.passes.optimizer) (toJson_injective h)

end Options

end BenchRoster
