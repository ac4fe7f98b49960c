/-
# Replacement tables

Globals are built by calls: each sets the value of an environment variable or the expression text of
an identifier, and a later call for the same name takes the place of an earlier one.  The table of
replacements brings both kinds under one kind of key, where an environment variable takes precedence
over an identifier that is spelled like it.

* `lastValue?` is what a list of entries says last about a name, and `Table.find?_foldl_insert` says
  that a table into which the entries are put answers by it;
* `Globals.find?_inlined_envKey` and `Globals.find?_inlined_of_ne` give the two kinds of
  replacements, `Globals.size_inlined` their number;
* `Globals.inlined_build` is about the replacement table of any calls.
-/
import BenchRoster.Proofs.OptionsReadBack
import Mathlib.Data.Finset.Card
import Mathlib.Data.Finset.Image
import Mathlib.Data.List.Induction
import Mathlib.Data.List.Nodup
import Mathlib.Tactic.Lemma

namespace BenchRoster

/-- What a list of entries says last about a name. -/
def lastValue? (es : List (String × String)) (name : String) : Option String :=
  es.reverse.lookup name

lemma lastValue?_concat (es : List (String × String)) (e : String × String) (name : String) :
    lastValue? (es ++ [e]) name = if name = e.1 then some e.2 else lastValue? es name := by
  rw [lastValue?, List.reverse_concat, lastValue?]
  obtain ⟨k, v⟩ := e
  by_cases h : name = k
  · subst h
    rw [if_pos rfl, List.lookup_cons_self]
  · rw [if_neg h, List.lookup_cons, beq_eq_false_iff_ne.2 h]

lemma isSome_lastValue?_iff {es : List (String × String)} {name : String} :
    (lastValue? es name).isSome ↔ name ∈ es.map Prod.fst := by
  rw [lastValue?, List.lookup_isSome_iff, List.mem_map]
  constructor
  · rintro ⟨e, he, hn⟩
    exact ⟨e, List.mem_reverse.1 he, (eq_of_beq hn).symm⟩
  · rintro ⟨e, he, hn⟩
    exact ⟨e, List.mem_reverse.2 he, beq_iff_eq.2 hn.symm⟩

/-! ## Tables by their answers -/

namespace Table

lemma nodup_keys (t : Table) : t.keys.Nodup := by
  have hp : t.keys.Pairwise (· < ·) := List.pairwise_map.2 t.ascending
  refine hp.imp fun {a b} hab he => ?_
  subst he
  exact String.lt_irrefl a hab

lemma find?_eq_some_iff {t : Table} {key value : String} :
    t.find? key = some value ↔ (key, value) ∈ t.entries := by
  rw [find?, List.lookup_eq_some_iff]
  constructor
  · rintro ⟨before, after, he, -⟩
    rw [he]
    simp
  · intro h
    obtain ⟨before, after, he⟩ := List.append_of_mem h
    refine ⟨before, after, he, fun x hx => bne_iff_ne.2 ?_⟩
    rintro rfl
    -- the key would be there twice
    have hn := t.nodup_keys
    rw [keys, he, List.map_append, List.map_cons] at hn
    have hd := (List.nodup_append.1 hn).2.2
    exact hd x.1 (List.mem_map_of_mem hx) x.1 List.mem_cons_self rfl

lemma mem_keys_iff {t : Table} {key : String} : key ∈ t.keys ↔ (t.find? key).isSome := by
  rw [keys, List.mem_map, Option.isSome_iff_exists]
  constructor
  · rintro ⟨⟨k, v⟩, he, rfl⟩
    exact ⟨v, find?_eq_some_iff.2 he⟩
  · rintro ⟨v, hv⟩
    exact ⟨(key, v), find?_eq_some_iff.1 hv, rfl⟩

lemma size_eq_card (t : Table) : t.size = t.keys.toFinset.card := by
  rw [List.toFinset_card_of_nodup t.nodup_keys, keys, List.length_map, size]

/-- Tables with the same answers are the same. -/
lemma eq_of_find? {s t : Table} (h : ∀ key, s.find? key = t.find? key) : s = t := by
  have hm : ∀ e, e ∈ s.entries ↔ e ∈ t.entries := by
    rintro ⟨k, v⟩
    rw [← find?_eq_some_iff, ← find?_eq_some_iff, h]
  have hp : s.entries.Perm t.entries :=
    (List.perm_ext_iff_of_nodup s.nodup_keys.of_map t.nodup_keys.of_map).2 hm
  have he : s.entries = t.entries :=
    List.Perm.eq_of_pairwise (fun a b _ _ hab hba => absurd hba (String.lt_asymm hab))
      s.ascending t.ascending hp
  obtain ⟨es, hs⟩ := s
  obtain ⟨fs, ht⟩ := t
  subst he
  rfl

/-- What a table answers after some insertions. -/
lemma find?_foldl_insert (es : List (String × String)) (t : Table) (key : String) :
    (es.foldl (fun t e => t.insert e.1 e.2) t).find? key =
      (lastValue? es key).or (t.find? key) := by
  induction es using List.reverseRecOn with
  | nil => rfl
  | append_singleton es e ih =>
    rw [List.foldl_append, List.foldl_cons, List.foldl_nil, find?_insert, ih, lastValue?_concat]
    split <;> rfl

lemma ofList_concat (es : List (String × String)) (e : String × String) :
    ofList (es ++ [e]) = (ofList es).insert e.1 e.2 := by
  rw [ofList, List.foldl_append]
  rfl

lemma find?_ofList (es : List (String × String)) (key : String) :
    (ofList es).find? key = lastValue? es key := by
  rw [ofList, find?_foldl_insert, find?_empty, Option.or_none]

lemma toFinset_keys_ofList (es : List (String × String)) :
    (ofList es).keys.toFinset = (es.map Prod.fst).toFinset := by
  ext key
  rw [List.mem_toFinset, List.mem_toFinset, mem_keys_iff, find?_ofList, isSome_lastValue?_iff]

end Table

namespace Globals

/-! ## The two kinds of replacements -/

lemma envKey_injective : Function.Injective envKey := fun _ _ h => (String.append_right_inj _).1 h

/-- The replacement table as a list of entries that are put into the table of the identifiers. -/
lemma inlined_eq_foldl (g : Globals) :
    g.inlined = (g.envs.entries.map fun e => (envKey e.1, envText e.2)).foldl
      (fun t e => t.insert e.1 e.2) g.vars := by
  rw [inlined, List.foldl_map]

/-- An environment variable that has a value is replaced by it. -/
lemma find?_inlined_envKey {g : Globals} {name value : String}
    (h : g.envs.find? name = some value) :
    g.inlined.find? (envKey name) = some (envText value) := by
  have hl : lastValue? (g.envs.entries.map fun e => (envKey e.1, envText e.2)) (envKey name) =
      some (envText value) := by
    obtain ⟨before, after, he⟩ := List.append_of_mem (Table.find?_eq_some_iff.1 h)
    have hn := g.envs.nodup_keys
    rw [Table.keys, he, List.map_append, List.map_cons] at hn
    have ha : name ∉ after.map Prod.fst := (List.nodup_cons.1 (List.nodup_append.1 hn).2.1).1
    rw [lastValue?, he, List.lookup_eq_some_iff]
    refine ⟨(after.map fun e => (envKey e.1, envText e.2)).reverse,
      (before.map fun e => (envKey e.1, envText e.2)).reverse, by simp, fun x hx => ?_⟩
    obtain ⟨e, hm, rfl⟩ := List.mem_map.1 (List.mem_reverse.1 hx)
    refine bne_iff_ne.2 fun hk => ha ?_
    exact List.mem_map.2 ⟨e, hm, (envKey_injective hk).symm⟩
  rw [inlined_eq_foldl, Table.find?_foldl_insert, hl, Option.some_or]

/-- A key that no environment variable has is left to the identifiers. -/
lemma find?_inlined_of_ne {g : Globals} {key : String}
    (h : ∀ name ∈ g.envs.keys, key ≠ envKey name) : g.inlined.find? key = g.vars.find? key := by
  have hl : lastValue? (g.envs.entries.map fun e => (envKey e.1, envText e.2)) key = none := by
    rw [← Option.not_isSome_iff_eq_none, isSome_lastValue?_iff, List.map_map]
    intro hk
    obtain ⟨e, he, hk⟩ := List.mem_map.1 hk
    exact h e.1 (List.mem_map_of_mem he) hk.symm
  rw [inlined_eq_foldl, Table.find?_foldl_insert, hl, Option.none_or]

lemma toFinset_keys_inlined (g : Globals) :
    g.inlined.keys.toFinset = g.vars.keys.toFinset ∪ g.envs.keys.toFinset.image envKey := by
  ext key
  rw [List.mem_toFinset, Table.mem_keys_iff, Finset.mem_union, List.mem_toFinset, Finset.mem_image]
  by_cases hk : ∃ name ∈ g.envs.keys, envKey name = key
  · obtain ⟨name, hn, rfl⟩ := hk
    obtain ⟨value, hv⟩ := Option.isSome_iff_exists.1 (Table.mem_keys_iff.1 hn)
    rw [find?_inlined_envKey hv]
    exact iff_of_true rfl (.inr ⟨name, List.mem_toFinset.2 hn, rfl⟩)
  · rw [find?_inlined_of_ne fun name hn he => hk ⟨name, hn, he.symm⟩, ← Table.mem_keys_iff]
    constructor
    · exact .inl
    · rintro (hv | ⟨name, hn, he⟩)
      · exact hv
      · exact absurd ⟨name, List.mem_toFinset.1 hn, he⟩ hk

/-- Every identifier and every environment variable has one entry, but for the identifiers that
environment variables take the place of. -/
lemma size_inlined (g : Globals) :
    g.inlined.size +
        (g.vars.keys.toFinset.filter fun key => ∃ name ∈ g.envs.keys, key = envKey name).card =
      g.vars.size + g.envs.size := by
  have hi : g.vars.keys.toFinset ∩ g.envs.keys.toFinset.image envKey =
      g.vars.keys.toFinset.filter fun key => ∃ name ∈ g.envs.keys, key = envKey name := by
    ext key
    simp only [Finset.mem_inter, Finset.mem_image, Finset.mem_filter, List.mem_toFinset, eq_comm]
  rw [Table.size_eq_card, toFinset_keys_inlined, ← hi, Finset.card_union_add_card_inter,
    Finset.card_image_of_injective _ envKey_injective, Table.size_eq_card, Table.size_eq_card]

/-! ## Calls that build globals -/

/-- A call that sets a value. -/
inductive Call where
  /-- Sets the value of an environment variable. -/
  | env (name value : String)
  /-- Sets the expression text of an identifier. -/
  | var (name expr : String)
deriving DecidableEq

namespace Call

/-- The environment variable that is set, with its value. -/
def env? : Call → Option (String × String)
  | env name value => some (name, value)
  | var _ _ => none

/-- The identifier that is set, with its expression text. -/
def var? : Call → Option (String × String)
  | env _ _ => none
  | var name expr => some (name, expr)

end Call

/-- Makes one call. -/
def perform (g : Globals) : Call → Globals
  | .env name value => g.env name value
  | .var name expr => g.var name expr

/-- The globals that calls build, one after the other, from none. -/
def build (calls : List Call) : Globals := calls.foldl perform {}

/-- The value that is given last to an environment variable. -/
def envValue? (calls : List Call) (name : String) : Option String :=
  lastValue? (calls.filterMap Call.env?) name

/-- The expression text that is given last to an identifier. -/
def varValue? (calls : List Call) (name : String) : Option String :=
  lastValue? (calls.filterMap Call.var?) name

/-- The environment variables that are given a value. -/
def envNames (calls : List Call) : Finset String :=
  ((calls.filterMap Call.env?).map Prod.fst).toFinset

/-- The identifiers that are given an expression text. -/
def varNames (calls : List Call) : Finset String :=
  ((calls.filterMap Call.var?).map Prod.fst).toFinset

/-- Calls of the one kind and calls of the other are kept apart. -/
lemma build_eq (calls : List Call) :
    build calls =
      ⟨Table.ofList (calls.filterMap Call.var?), Table.ofList (calls.filterMap Call.env?)⟩ := by
  induction calls using List.reverseRecOn with
  | nil => rfl
  | append_singleton calls c ih =>
    have hb : build (calls ++ [c]) = (build calls).perform c := by
      rw [build, List.foldl_append]
      rfl
    rw [hb, ih, List.filterMap_append, List.filterMap_append]
    cases c with
    | env name value =>
      rw [show [Call.env name value].filterMap Call.env? = [(name, value)] from rfl,
        show [Call.env name value].filterMap Call.var? = [] from rfl, Table.ofList_concat,
        List.append_nil]
      rfl
    | var name expr =>
      rw [show [Call.var name expr].filterMap Call.env? = [] from rfl,
        show [Call.var name expr].filterMap Call.var? = [(name, expr)] from rfl,
        Table.ofList_concat, List.append_nil]
      rfl

lemma find?_envs_build (calls : List Call) (name : String) :
    (build calls).envs.find? name = envValue? calls name := by
  rw [build_eq, Table.find?_ofList, envValue?]

lemma find?_vars_build (calls : List Call) (name : String) :
    (build calls).vars.find? name = varValue? calls name := by
  rw [build_eq, Table.find?_ofList, varValue?]

lemma toFinset_keys_envs_build (calls : List Call) :
    (build calls).envs.keys.toFinset = envNames calls := by
  rw [build_eq, Table.toFinset_keys_ofList, envNames]

lemma toFinset_keys_vars_build (calls : List Call) :
    (build calls).vars.keys.toFinset = varNames calls := by
  rw [build_eq, Table.toFinset_keys_ofList, varNames]

/-- Globals are determined by the value that each name is given last. -/
lemma build_congr {calls others : List Call}
    (he : ∀ name, envValue? calls name = envValue? others name)
    (hv : ∀ name, varValue? calls name = varValue? others name) : build calls = build others := by
  have henvs : (build calls).envs = (build others).envs :=
    Table.eq_of_find? fun name => by rw [find?_envs_build, find?_envs_build, he]
  have hvars : (build calls).vars = (build others).vars :=
    Table.eq_of_find? fun name => by rw [find?_vars_build, find?_vars_build, hv]
  rcases hc : build calls with ⟨vars, envs⟩
  rcases ho : build others with ⟨vars', envs'⟩
  rw [hc, ho] at henvs hvars
  cases henvs
  cases hvars
  rfl

/-- **The replacement table of any calls.**  An environment variable that is given a value is
replaced, as `process.env.NAME`, by the last of its values between single quotes, whatever was said
of an identifier of that spelling and whenever.  Every other key is replaced by the last expression
text that an identifier of this name is given, as it stands, or else not at all.  Neither the table
nor the options file depends on anything but the last value of each name: not on earlier values, and
not on how calls of the two kinds follow each other.  The table has an entry for each identifier and
each environment variable, less the identifiers that are spelled like an environment variable. -/
theorem inlined_build (calls : List Call) :
    (∀ name value, envValue? calls name = some value →
      (build calls).inlined.find? ("process.env." ++ name) = some ("'" ++ value ++ "'")) ∧
    (∀ key, (∀ name, (envValue? calls name).isSome → key ≠ "process.env." ++ name) →
      (build calls).inlined.find? key = varValue? calls key) ∧
    (∀ others, (∀ name, envValue? calls name = envValue? others name) →
      (∀ name, varValue? calls name = varValue? others name) →
      (build calls).inlined = (build others).inlined ∧
        (Options.withGlobals (build calls)).toJson =
          (Options.withGlobals (build others)).toJson) ∧
    (build calls).inlined.size +
        ((varNames calls).filter fun key =>
          ∃ name ∈ envNames calls, key = "process.env." ++ name).card =
      (varNames calls).card + (envNames calls).card := by
  refine ⟨fun name value h => ?_, fun key h => ?_, fun others he hv => ?_, ?_⟩
  · exact find?_inlined_envKey (by rw [find?_envs_build, h])
  · rw [find?_inlined_of_ne ?_, find?_vars_build]
    intro name hn
    rw [Table.mem_keys_iff, find?_envs_build] at hn
    exact h name hn
  · rw [build_congr he hv]
    exact ⟨rfl, rfl⟩
  · have hs := (build calls).size_inlined
    simp only [← List.mem_toFinset (l := (build calls).envs.keys), Table.size_eq_card,
      toFinset_keys_envs_build, toFinset_keys_vars_build] at hs ⊢
    exact hs

/-- A variable is set twice, and so is an identifier; another identifier is spelled like the
variable. -/
def repeatedCalls : List Call :=
  [.var "process.env.MODE" "dev", .env "MODE" "test", .var "DEBUG" "false", .env "MODE" "release",
    .var "DEBUG" "true"]

/-- The last of these calls for each name, in another order. -/
def lastCalls : List Call :=
  [.var "DEBUG" "true", .env "MODE" "release", .var "process.env.MODE" "dev"]

theorem inlined_build_repeatedCalls :
    envValue? repeatedCalls "MODE" = some "release" ∧
      (build repeatedCalls).inlined.find? "process.env.MODE" = some "'release'" ∧
      (∀ name, (envValue? repeatedCalls name).isSome → "DEBUG" ≠ "process.env." ++ name) ∧
      (build repeatedCalls).inlined.find? "DEBUG" = some "true" ∧
      (∀ name, envValue? repeatedCalls name = envValue? lastCalls name) ∧
      (∀ name, varValue? repeatedCalls name = varValue? lastCalls name) ∧
      (build repeatedCalls).inlined = (build lastCalls).inlined ∧
      (build repeatedCalls).inlined.size + 1 = 2 + 1 := by
  obtain ⟨henv, hvar, hlast, hsize⟩ := inlined_build repeatedCalls
  have hm : envValue? repeatedCalls "MODE" = some "release" := by decide +kernel
  have hd : ∀ name, (envValue? repeatedCalls name).isSome → "DEBUG" ≠ "process.env." ++ name := by
    intro name _ he
    have hc := congrArg (fun s : String => s.toList.head?) he
    rw [String.toList_append] at hc
    cases hc
  have he : ∀ name, envValue? repeatedCalls name = envValue? lastCalls name := by
    intro name
    by_cases hn : name = "MODE"
    · subst hn
      decide +kernel
    · rw [envValue?, envValue?,
        show repeatedCalls.filterMap Call.env? = [("MODE", "test"), ("MODE", "release")] from rfl,
        show lastCalls.filterMap Call.env? = [("MODE", "release")] from rfl]
      simp [lastValue?, List.lookup_cons, beq_eq_false_iff_ne.2 hn]
  have hv : ∀ name, varValue? repeatedCalls name = varValue? lastCalls name := by
    intro name
    by_cases hn : name = "DEBUG"
    · subst hn
      decide +kernel
    · rw [varValue?, varValue?,
        show repeatedCalls.filterMap Call.var? =
          [("process.env.MODE", "dev"), ("DEBUG", "false"), ("DEBUG", "true")] from rfl,
        show lastCalls.filterMap Call.var? =
          [("DEBUG", "true"), ("process.env.MODE", "dev")] from rfl]
      simp [lastValue?, List.lookup_cons, beq_eq_false_iff_ne.2 hn]
  have hf : ((varNames repeatedCalls).filter fun key =>
      ∃ name ∈ envNames repeatedCalls, key = "process.env." ++ name).card = 1 := by decide +kernel
  refine ⟨hm, henv "MODE" "release" hm, hd, ?_, he, hv, (hlast lastCalls he hv).1, ?_⟩
  · rw [hvar "DEBUG" hd]
    decide +kernel
  · rw [hf] at hsize
    exact hsize

end Globals

end BenchRoster
