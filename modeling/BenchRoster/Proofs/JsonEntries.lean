/-
# Entries of records and tables

A record takes no notice of the order of its entries, as long as their keys differ, and skips the
entries that it does not know; it refuses an entry that it has already.  In a table the last entry
for a key counts.

* `Separate` says that the fields of a record have keys and places of their own, so that entries for
  different fields may change places (`commutes_addField`, `entries_perm`);
* `entries_field`, `entries_undeclared` and `entries_repeated` are about the entries for one key;
* `exists_of_child` is what a record makes of a place right inside it, and `get_of_child` finds the
  value there in the record that is read (`of_child_one`, `of_child_first` and `of_child_second` for
  records with few entries);
* `table_textEntries` reads a table.
-/
import BenchRoster.Proofs.Inlining
import BenchRoster.Proofs.JsonOmissions
import Mathlib.Data.List.Pairwise

namespace BenchRoster.Json

variable {α β π : Type}

/-- A place right inside a record: the value of an entry of an object, or an item of a list. -/
inductive Child (keys : List String) (key : String) : (Tree → Tree) → Prop
  | entry (es₁ es₂ : List (Option String × Tree)) :
      Child keys key fun v => .object (es₁ ++ (some key, v) :: es₂)
  | item {vs₁ : List Tree} (hk : keys[vs₁.length]? = some key) (vs₂ : List Tree) :
      Child keys key fun v => .list (vs₁ ++ v :: vs₂)

/-- The entries of an object of texts. -/
def textEntries (xs : List (String × String)) : List (Option String × Tree) :=
  xs.map fun x => (some x.1, .text (some x.2))

namespace View

/-! ## Entries in another order -/

/-- Two entries with different keys are added in either order. -/
def Commutes (add : String → π → View π) : Prop :=
  ∀ ⦃k l : String⦄, k ≠ l → ∀ p v w,
    ((add k p v).bind fun q => add l q w) = (add l p w).bind fun q => add k q v

/-- Entries with different keys are added in any order. -/
lemma entries_perm {add : String → π → View π} (hc : Commutes add)
    {es₁ es₂ : List (Option String × Tree)} (h : es₁.Perm es₂)
    (hd : (es₁.filterMap (·.1)).Nodup) (p : π) : entries add p es₁ = entries add p es₂ := by
  induction h generalizing p with
  | nil => rfl
  | @cons e es₁ es₂ _ ih =>
    obtain ⟨_ | key, v⟩ := e
    · rfl
    · have hd := (List.nodup_cons.1 hd).2
      rw [entries, entries]
      exact congrArg _ (funext fun q => congrArg _ (funext fun q => ih hd q))
  | swap e₁ e₂ es =>
    obtain ⟨k, v⟩ := e₁
    obtain ⟨l, w⟩ := e₂
    cases k with
    | none => cases l <;> simp [entries]
    | some k =>
      cases l with
      | none => simp [entries]
      | some l =>
        have hne : l ≠ k := by
          rintro rfl
          simp at hd
        have hcomm := hc hne p w v
        simp only [entries, Option.bind_some]
        rw [← Option.bind_assoc, hcomm, Option.bind_assoc]
  | trans h₁ _ ih₁ ih₂ =>
    exact (ih₁ hd p).trans (ih₂ ((h₁.filterMap _).nodup_iff.1 hd) p)

/-- A value among entries counts by what is added for it. -/
lemma entries_congr {add : String → π → View π} {v w : Tree}
    (h : ∀ key p, add key p v = add key p w) (k : Option String)
    (es₁ es₂ : List (Option String × Tree)) (p : π) :
    entries add p (es₁ ++ (k, v) :: es₂) = entries add p (es₁ ++ (k, w) :: es₂) := by
  rw [entries_append, entries_append]
  simp only [entries, h]

/-! ## Records with fields of their own -/

/-- Two fields have places of their own in a partial record: what is read for one of them takes no
notice of the other. -/
structure Apart (f g : Field View π) : Prop where
  seen_left {v : Tree} {b : π → π} (h : g.read v = some b) (p : π) : f.seen (b p) = f.seen p
  seen_right {v : Tree} {a : π → π} (h : f.read v = some a) (p : π) : g.seen (a p) = g.seen p
  comm {v w : Tree} {a b : π → π} (ha : f.read v = some a) (hb : g.read w = some b) (p : π) :
    a (b p) = b (a p)

instance : Std.Symm (Apart : Field View π → Field View π → Prop) where
  symm _ _ h := ⟨h.seen_right, h.seen_left, fun ha hb p => (h.comm hb ha p).symm⟩

/-- What is read for a field is seen in a partial record. -/
structure Marks (f : Field View π) : Prop where
  seen {v : Tree} {a : π → π} (h : f.read v = some a) (p : π) : f.seen (a p) = true

/-- The fields of a record have keys and places of their own. -/
structure Separate (fields : List (Field View π)) : Prop where
  distinct : (fields.map (·.key)).Nodup
  marks : ∀ f ∈ fields, Marks f
  apart : fields.Pairwise Apart

/-- Fields that put values into different places take no notice of each other. -/
lemma Apart.of_map {γ : Type} {k l : String} {s t : π → Bool} {put : β → π → π} {set : γ → π → π}
    {v : View β} {w : View γ} (hs : ∀ y p, s (set y p) = s p) (ht : ∀ x p, t (put x p) = t p)
    (hc : ∀ x y p, put x (set y p) = set y (put x p)) :
    Apart ⟨k, s, Format.map put v⟩ ⟨l, t, Format.map set w⟩ where
  seen_left h p := by
    obtain ⟨y, -, rfl⟩ := Option.map_eq_some_iff.1 h
    exact hs y p
  seen_right h p := by
    obtain ⟨x, -, rfl⟩ := Option.map_eq_some_iff.1 h
    exact ht x p
  comm ha hb p := by
    obtain ⟨x, -, rfl⟩ := Option.map_eq_some_iff.1 ha
    obtain ⟨y, -, rfl⟩ := Option.map_eq_some_iff.1 hb
    exact hc x y p

lemma Marks.of_map {k : String} {s : π → Bool} {put : β → π → π} {view : View β}
    (h : ∀ x p, s (put x p) = true) : Marks ⟨k, s, Format.map put view⟩ where
  seen ha p := by
    obtain ⟨x, -, rfl⟩ := Option.map_eq_some_iff.1 ha
    exact h x p

lemma Separate.single {f : Field View π} (h : Marks f) : Separate [f] where
  distinct := List.nodup_singleton _
  marks := List.forall_mem_singleton.2 h
  apart := List.pairwise_singleton _ _

lemma Separate.cons {f : Field View π} {fields : List (Field View π)} (h : Separate fields)
    (hk : f.key ∉ fields.map (·.key)) (hf : Marks f) (ha : ∀ g ∈ fields, Apart f g) :
    Separate (f :: fields) where
  distinct := List.nodup_cons.2 ⟨hk, h.distinct⟩
  marks := List.forall_mem_cons.2 ⟨hf, h.marks⟩
  apart := List.pairwise_cons.2 ⟨ha, h.apart⟩

lemma Separate.pair {f g : Field View π} (hk : f.key ≠ g.key) (hf : Marks f) (hg : Marks g)
    (h : Apart f g) : Separate [f, g] :=
  (Separate.single hg).cons (by simpa using hk) hf (List.forall_mem_singleton.2 h)

section

variable {fields : List (Field View π)}

lemma Separate.apart_of_ne (h : Separate fields) {f g : Field View π} (hf : f ∈ fields)
    (hg : g ∈ fields) (hne : f.key ≠ g.key) : Apart f g :=
  h.apart.forall hf hg fun he => hne (congrArg _ he)

/-- The field for a key is found. -/
lemma Separate.find?_eq (h : Separate fields) {f : Field View π} (hf : f ∈ fields) :
    Field.find? fields f.key = some f := by
  rcases hg : Field.find? fields f.key with _ | g
  · exact absurd (List.find?_eq_none.1 hg f hf) (by simp)
  · obtain ⟨hgm, hk⟩ := Field.mem_of_find? hg
    rw [List.inj_on_of_nodup_map h.distinct hgm hf hk]

/-- When a field has been read, it is seen, and the others as before. -/
lemma Separate.seen_eq (h : Separate fields) {f g : Field View π} (hf : f ∈ fields)
    (hg : g ∈ fields) {v : Tree} {a : π → π} (ha : f.read v = some a) (p : π) :
    g.seen (a p) = (decide (g.key = f.key) || g.seen p) := by
  by_cases hk : g.key = f.key
  · obtain rfl := List.inj_on_of_nodup_map h.distinct hg hf hk
    simp [(h.marks g hg).seen ha p]
  · simp [hk, (h.apart_of_ne hg hf hk).seen_left ha p]

lemma commutes_addField (h : Separate fields) : Commutes (addField fields) := by
  intro k l hne p v w
  rcases hf : Field.find? fields k with _ | f
  · simp [addField_none hf]
  rcases hg : Field.find? fields l with _ | g
  · simp [addField_none hg]
  obtain ⟨hfm, rfl⟩ := Field.mem_of_find? hf
  obtain ⟨hgm, rfl⟩ := Field.mem_of_find? hg
  have hfg := h.apart_of_ne hfm hgm hne
  simp only [addField_some hf, addField_some hg]
  rcases ha : f.read v with _ | a
  · cases g.seen p <;> cases g.read w <;> simp
  rcases hb : g.read w with _ | b
  · cases f.seen p <;> simp
  have hga : g.seen (a p) = g.seen p := hfg.seen_right ha p
  have hfb : f.seen (b p) = f.seen p := hfg.seen_left hb p
  have hab : a (b p) = b (a p) := hfg.comm ha hb p
  cases hfp : f.seen p <;> cases hgp : g.seen p <;> simp [hga, hfb, hab, hfp, hgp]

end

/-- Items are read one part after the other. -/
lemma items_append (fields : List (Field View π)) (p : π) (vs₁ vs₂ : List Tree) :
    items fields p (vs₁ ++ vs₂) =
      (items fields p vs₁).bind fun q => items (fields.drop vs₁.length) q vs₂ := by
  induction vs₁ generalizing fields p with
  | nil => cases fields <;> rfl
  | cons v vs ih =>
    cases fields with
    | nil => rfl
    | cons f fs =>
      rw [List.cons_append, items, items, Option.bind_assoc]
      exact congrArg _ (funext fun a => ih fs (a p))

section

variable {fields : List (Field View π)} {f : Field View π} {P : π → Prop}

/-- The other fields of a record keep what is true of a partial record. -/
def Kept (fields : List (Field View π)) (f : Field View π) (P : π → Prop) : Prop :=
  ∀ g ∈ fields, g.key ≠ f.key → ∀ {v a p}, g.read v = some a → P p → P (a p)

/-- Entries behind that of a field keep what the other fields keep, since it is not read again. -/
lemma Kept.entries (hP : Kept fields f P) (hs : Separate fields) (hf : f ∈ fields)
    {es : List (Option String × Tree)} {p q : π} (hseen : f.seen p = true) (hp : P p)
    (h : View.entries (addField fields) p es = some q) : f.seen q = true ∧ P q := by
  induction es generalizing p with
  | nil =>
    cases h
    exact ⟨hseen, hp⟩
  | cons e es ih =>
    obtain ⟨_ | key, v⟩ := e
    · cases h
    · rw [View.entries, Option.bind_some] at h
      obtain ⟨r, hr, h⟩ := Option.bind_eq_some_iff.1 h
      rcases hg : Field.find? fields key with _ | g
      · rw [addField_none hg] at hr
        cases hr
        exact ih hseen hp h
      · obtain ⟨hgm, -⟩ := Field.mem_of_find? hg
        rw [addField_some hg] at hr
        by_cases hk : g.key = f.key
        · obtain rfl := List.inj_on_of_nodup_map hs.distinct hgm hf hk
          rw [if_pos hseen] at hr
          cases hr
        · split at hr
          · cases hr
          · obtain ⟨a, ha, rfl⟩ := Option.map_eq_some_iff.1 hr
            refine ih ?_ (hP g hgm hk ha hp) h
            rw [hs.seen_eq hgm hf ha, hseen, Bool.or_true]

/-- Items for other fields keep what these fields keep. -/
lemma Kept.items (hP : Kept fields f P) {gs : List (Field View π)}
    (hgs : ∀ g ∈ gs, g ∈ fields ∧ g.key ≠ f.key) {vs : List Tree} {p q : π} (hp : P p)
    (h : View.items gs p vs = some q) : P q := by
  induction vs generalizing gs p with
  | nil =>
    cases gs <;> cases h <;> exact hp
  | cons v vs ih =>
    cases gs with
    | nil => cases h
    | cons g gs =>
      obtain ⟨⟨hg, hk⟩, hgs⟩ := List.forall_mem_cons.1 hgs
      obtain ⟨a, ha, h⟩ := Option.bind_eq_some_iff.1 h
      exact ih hgs (hP g hg hk ha hp) h

lemma eq_ok_of_toOption {x : Except String α} {a : α} (h : x.toOption = some a) : x = .ok a := by
  cases x <;> cases h
  rfl

/-- Records in which the same fields are there take the same entries. -/
lemma isSome_entries (hs : Separate fields) {p q : π} (h : ∀ f ∈ fields, f.seen p = f.seen q)
    (es : List (Option String × Tree)) :
    (entries (addField fields) p es).isSome = (entries (addField fields) q es).isSome := by
  induction es generalizing p q with
  | nil => rfl
  | cons e es ih =>
    obtain ⟨_ | key, v⟩ := e
    · rfl
    · rw [entries, entries, Option.bind_some, Option.bind_some]
      rcases hf : Field.find? fields key with _ | f
      · rw [addField_none hf, addField_none hf]
        exact ih h
      · obtain ⟨hfm, -⟩ := Field.mem_of_find? hf
        rw [addField_some hf, addField_some hf, h f hfm]
        rcases ha : f.read v with _ | a
        · split <;> rfl
        · split
          · rfl
          · exact ih fun g hg => by rw [hs.seen_eq hfm hg ha, hs.seen_eq hfm hg ha, h g hg]

/-- Whether items are taken does not depend on what is there. -/
lemma isSome_items (gs : List (Field View π)) (vs : List Tree) (p q : π) :
    (View.items gs p vs).isSome = (View.items gs q vs).isSome := by
  induction vs generalizing gs p q with
  | nil => cases gs <;> rfl
  | cons v vs ih =>
    cases gs with
    | nil => rfl
    | cons g gs =>
      rw [View.items, View.items]
      cases g.read v with
      | none => rfl
      | some a => exact ih gs (a p) (a q)

/-- What is made of a field's value in a record: the record is completed from one of which
everything is true that the value brings about and that the other fields keep.  If every record can
be completed, no value that is read is refused for what it is. -/
structure Completes (fields : List (Field View π)) (f : Field View π)
    (finish : π → Except String α) (k : (π → π) → Option α) : Prop where
  exists_finish {P : π → Prop} {v : Tree} {a : π → π} {x : α} (hP : Kept fields f P)
    (ha : f.read v = some a) (hPa : ∀ p, P (a p)) (hx : k a = some x) :
    ∃ q, P q ∧ finish q = .ok x
  isSome_eq (hf : ∀ p, ∃ x, finish p = .ok x) {v w : Tree} {a b : π → π} (ha : f.read v = some a)
    (hb : f.read w = some b) : (k a).isSome = (k b).isSome

/-- Completing makes no difference to whether there is something. -/
lemma isSome_finish {finish : π → Except String α} (h : ∀ p, ∃ x, finish p = .ok x)
    (p? : Option π) : (p?.bind fun p => (finish p).toOption).isSome = p?.isSome := by
  cases p? with
  | none => rfl
  | some p =>
    obtain ⟨x, hx⟩ := h p
    rw [Option.bind_some, hx]
    rfl

lemma exists_of_entry (hs : Separate fields) (hf : f ∈ fields)
    (es₁ es₂ : List (Option String × Tree)) (name : String) (blank : π)
    (finish : π → Except String α) :
    ∃ k, Completes fields f finish k ∧ ∀ v,
      record name fields blank finish (.object (es₁ ++ (some f.key, v) :: es₂)) =
        (f.read v).bind k := by
  refine ⟨fun a => (entries (addField fields) blank es₁).bind fun p => if f.seen p then none else
    (entries (addField fields) (a p) es₂).bind fun q => (finish q).toOption,
    ⟨fun {P v a x} hP ha hPa hx => ?_, fun hfin {v w a b} ha hb => ?_⟩, fun v => ?_⟩
  · obtain ⟨p, -, hx⟩ := Option.bind_eq_some_iff.1 hx
    split at hx
    · cases hx
    · obtain ⟨q, hq, hx⟩ := Option.bind_eq_some_iff.1 hx
      have hq := hP.entries hs hf ((hs.marks f hf).seen ha p) (hPa p) hq
      exact ⟨q, hq.2, eq_ok_of_toOption hx⟩
  · cases entries (addField fields) blank es₁ with
    | none => rfl
    | some p =>
      rw [Option.bind_some, Option.bind_some]
      split
      · rfl
      · rw [isSome_finish hfin, isSome_finish hfin]
        refine isSome_entries hs (fun g hg => ?_) es₂
        rw [hs.seen_eq hf hg ha, hs.seen_eq hf hg hb]
  · rw [record, entries_append]
    cases entries (addField fields) blank es₁ with
    | none => simp
    | some p =>
      simp only [Option.bind_some, entries, addField_some (hs.find?_eq hf)]
      cases f.seen p <;> cases f.read v <;> simp

lemma exists_of_item (hs : Separate fields) (hf : f ∈ fields) {vs₁ : List Tree}
    (hk : (fields.map (·.key))[vs₁.length]? = some f.key) (vs₂ : List Tree) (name : String)
    (blank : π) (finish : π → Except String α) :
    ∃ k, Completes fields f finish k ∧ ∀ v,
      record name fields blank finish (.list (vs₁ ++ v :: vs₂)) = (f.read v).bind k := by
  obtain ⟨pre, post, hsplit, hl, -⟩ := exists_of_getElem? hs.distinct (hs.find?_eq hf) hk
  have hdrop : fields.drop vs₁.length = f :: post := by
    rw [hsplit, ← hl, List.drop_left]
  refine ⟨fun a => (View.items fields blank vs₁).bind fun p =>
    (View.items post (a p) vs₂).bind fun q => (finish q).toOption,
    ⟨fun {P v a x} hP ha hPa hx => ?_, fun hfin {v w a b} ha hb => ?_⟩, fun v => ?_⟩
  · obtain ⟨p, -, hx⟩ := Option.bind_eq_some_iff.1 hx
    obtain ⟨q, hq, hx⟩ := Option.bind_eq_some_iff.1 hx
    have hpost : ∀ g ∈ post, g ∈ fields ∧ g.key ≠ f.key := by
      intro g hg
      have hn := hs.distinct
      rw [hsplit, List.map_append, List.map_cons, List.nodup_append, List.nodup_cons] at hn
      refine ⟨hsplit ▸ List.mem_append_right _ (List.mem_cons_of_mem _ hg), fun hk => ?_⟩
      exact hn.2.1.1 (hk ▸ List.mem_map_of_mem hg)
    exact ⟨q, hP.items hpost (hPa p) hq, eq_ok_of_toOption hx⟩
  · cases View.items fields blank vs₁ with
    | none => rfl
    | some p =>
      rw [Option.bind_some, Option.bind_some, isSome_finish hfin, isSome_finish hfin]
      exact isSome_items post vs₂ (a p) (b p)
  · rw [record, items_append, hdrop]
    cases View.items fields blank vs₁ with
    | none => simp
    | some p =>
      simp only [Option.bind_some, View.items]
      cases f.read v <;> simp

/-- **What a record makes of a place right inside it.**  It is what is made of the value for the
field at this place. -/
lemma exists_of_child (hs : Separate fields) (hf : f ∈ fields) {child : Tree → Tree}
    (hc : Child (fields.map (·.key)) f.key child) (name : String) (blank : π)
    (finish : π → Except String α) :
    ∃ k, Completes fields f finish k ∧
      ∀ v, record name fields blank finish (child v) = (f.read v).bind k := by
  cases hc with
  | entry es₁ es₂ => exact exists_of_entry hs hf es₁ es₂ name blank finish
  | item hk vs₂ => exact exists_of_item hs hf hk vs₂ name blank finish

/-- What is read for a field makes no difference to a part of the record. -/
structure Ignores (get : π → β) (g : Field View π) : Prop where
  get_eq {v : Tree} {a : π → π} (h : g.read v = some a) (p : π) : get (a p) = get p

lemma Ignores.of_map {γ : Type} {get : π → β} {k : String} {s : π → Bool} {put : γ → π → π}
    {view : View γ} (h : ∀ x p, get (put x p) = get p) :
    Ignores get ⟨k, s, Format.map put view⟩ where
  get_eq ha p := by
    obtain ⟨x, -, rfl⟩ := Option.map_eq_some_iff.1 ha
    exact h x p

/-- What stands in a place right inside a record is found in the place of its field. -/
lemma get_of_child (get : π → Option β) {key : String} {seen : π → Bool} {put : β → π → π}
    {view : View β} (hs : Separate fields) (hf : ⟨key, seen, Format.map put view⟩ ∈ fields)
    (hput : ∀ y p, get (put y p) = some y)
    (hget : ∀ g ∈ fields, g.key = key ∨ Ignores get g)
    {child : Tree → Tree} (hc : Child (fields.map (·.key)) key child) {name : String} {blank : π}
    {finish : π → Except String α} {v : Tree} {x : α}
    (h : record name fields blank finish (child v) = some x) :
    ∃ y q, view v = some y ∧ get q = some y ∧ finish q = .ok x := by
  obtain ⟨k, hc, hk⟩ := exists_of_child hs hf hc name blank finish
  rw [hk] at h
  obtain ⟨a, ha, h⟩ := Option.bind_eq_some_iff.1 h
  obtain ⟨y, hy, rfl⟩ := Option.map_eq_some_iff.1 ha
  have hkept : Kept fields ⟨key, seen, Format.map put view⟩ fun q => get q = some y :=
    fun g hg hne _ _ p hr hq => (((hget g hg).resolve_left hne).get_eq hr p).trans hq
  obtain ⟨q, hq, hx⟩ := hc.exists_finish hkept ha (hput y) h
  exact ⟨y, q, hy, hq, hx⟩

/-! ### Records with one entry or two -/

section

variable {γ : Type} {key other : String} {view : View β} {view' : View γ} {child : Tree → Tree}
  {v : Tree} {name : String} {x : α}

lemma separate_one (key : String) (view : View β) :
    Separate [⟨key, (·.isSome), Format.map (fun y _ => some y) view⟩] :=
  .single (.of_map fun _ _ => rfl)

lemma separate_two (hk : key ≠ other) (view : View β) (view' : View γ) :
    Separate [⟨key, (·.1.isSome), Format.map (fun y p => (some y, p.2)) view⟩,
      ⟨other, (·.2.isSome), Format.map (fun z p => (p.1, some z)) view'⟩] :=
  .pair hk (.of_map fun _ _ => rfl) (.of_map fun _ _ => rfl)
    (.of_map (fun _ _ => rfl) (fun _ _ => rfl) fun _ _ _ => rfl)

/-- The value of the only entry is the one that is read for it. -/
lemma of_child_one {blank : Option β} {finish : Option β → Except String α}
    (hc : Child [key] key child)
    (h : record name [⟨key, (·.isSome), Format.map (fun y _ => some y) view⟩] blank finish
      (child v) = some x) :
    ∃ y, view v = some y ∧ finish (some y) = .ok x := by
  obtain ⟨y, q, hy, hq, hx⟩ := get_of_child id (separate_one key view) List.mem_cons_self
    (fun _ _ => rfl) (List.forall_mem_singleton.2 (.inl rfl)) hc h
  obtain rfl : q = some y := hq
  exact ⟨y, hy, hx⟩

variable {blank : Option β × Option γ} {finish : Option β × Option γ → Except String α}

lemma of_child_first (hk : key ≠ other) (hc : Child [key, other] key child)
    (h : record name [⟨key, (·.1.isSome), Format.map (fun y p => (some y, p.2)) view⟩,
      ⟨other, (·.2.isSome), Format.map (fun z p => (p.1, some z)) view'⟩] blank finish
      (child v) = some x) :
    ∃ y z, view v = some y ∧ finish (some y, z) = .ok x := by
  obtain ⟨y, ⟨q, z⟩, hy, hq, hx⟩ := get_of_child (·.1) (separate_two hk view view')
    List.mem_cons_self (fun _ _ => rfl) (List.forall_mem_cons.2
      ⟨.inl rfl, List.forall_mem_singleton.2 (.inr (.of_map fun _ _ => rfl))⟩) hc h
  obtain rfl : q = some y := hq
  exact ⟨y, z, hy, hx⟩

lemma of_child_second (hk : key ≠ other) (hc : Child [key, other] other child)
    (h : record name [⟨key, (·.1.isSome), Format.map (fun y p => (some y, p.2)) view⟩,
      ⟨other, (·.2.isSome), Format.map (fun z p => (p.1, some z)) view'⟩] blank finish
      (child v) = some x) :
    ∃ y z, view' v = some z ∧ finish (y, some z) = .ok x := by
  obtain ⟨z, ⟨y, q⟩, hz, hq, hx⟩ := get_of_child (·.2) (separate_two hk view view')
    (List.mem_cons_of_mem _ List.mem_cons_self) (fun _ _ => rfl) (List.forall_mem_cons.2
      ⟨.inr (.of_map fun _ _ => rfl), List.forall_mem_singleton.2 (.inl rfl)⟩) hc h
  obtain rfl : q = some z := hq
  exact ⟨y, z, hz, hx⟩

end

/-- There is something in a place right inside a record, so the record is not null. -/
lemma optional_of_child {keys : List String} {key : String} {child : Tree → Tree}
    (hc : Child keys key child) (view : View α) (v : Tree) :
    optional view (child v) = (view (child v)).map some := by
  cases hc <;> rfl

end

/-! ## Entries for one key -/

/-- An entry for a field that has not been seen is added. -/
lemma entries_field {fields : List (Field View π)} {f : Field View π} {key : String} {p : π}
    (hf : Field.find? fields key = some f) (hp : f.seen p = false) {v : Tree} {a : π → π}
    (ha : f.read v = some a) (es : List (Option String × Tree)) :
    entries (addField fields) p ((some key, v) :: es) = entries (addField fields) (a p) es := by
  simp [entries, addField_some hf, hp, ha]

/-- An entry that a record does not know is skipped. -/
lemma entries_undeclared {fields : List (Field View π)} {key : String}
    (hk : key ∉ fields.map (·.key)) (v : Tree) (es₁ es₂ : List (Option String × Tree)) (p : π) :
    entries (addField fields) p (es₁ ++ (some key, v) :: es₂) =
      entries (addField fields) p (es₁ ++ es₂) := by
  have hf : Field.find? fields key = none := by
    rw [Field.find?, List.find?_eq_none]
    intro f hf he
    exact hk (List.mem_map.2 ⟨f, hf, by simpa using he⟩)
  simp only [entries_append, entries, Option.bind_some, addField_none hf]

/-- Two entries for a field are one too many. -/
lemma entries_repeated {fields : List (Field View π)} {f : Field View π} (hs : Separate fields)
    (hf : f ∈ fields) (v w : Tree) (es₁ es₂ es₃ : List (Option String × Tree)) (p : π) :
    entries (addField fields) p (es₁ ++ (some f.key, v) :: es₂ ++ (some f.key, w) :: es₃) =
      none := by
  have hfind := hs.find?_eq hf
  rw [List.append_assoc, List.cons_append, entries_append]
  rcases entries (addField fields) p es₁ with _ | q
  · rfl
  simp only [Option.bind_some, entries, addField_some hfind, entries_append]
  rcases ha : f.read v with _ | a
  · cases f.seen q <;> rfl
  rcases he : entries (addField fields) (a q) es₂ with _ | r
  · cases f.seen q <;> simp [he]
  have hkept : Kept fields f fun _ => True := fun _ _ _ _ _ _ _ _ => trivial
  have hr : f.seen r = true := (hkept.entries hs hf ((hs.marks f hf).seen ha q) trivial he).1
  cases f.seen q <;> simp [he, hr]

/-! ## Tables -/

lemma commutes_insert :
    Commutes fun (key : String) (t : Table) v => (text v).map (t.insert key) := by
  intro k l hne t v w
  rcases hv : text v with _ | x
  · simp [hv]
  rcases hw : text w with _ | y
  · simp [hv, hw]
  have ht : (t.insert k x).insert l y = (t.insert l y).insert k x := by
    refine Table.eq_of_find? fun key => ?_
    simp only [Table.find?_insert]
    by_cases hk : key = k
    · rw [if_neg (hk ▸ hne), if_pos hk, if_pos hk]
    · rw [if_neg hk, if_neg hk]
  simp [hv, hw, ht]

lemma table_textEntries (xs : List (String × String)) :
    table (.object (textEntries xs)) = some (.ofList xs) := by
  have hfold : ∀ t : Table, entries (fun key t v => (text v).map (t.insert key)) t
      (textEntries xs) = some (xs.foldl (fun t x => t.insert x.1 x.2) t) := by
    induction xs with
    | nil => exact fun t => rfl
    | cons x xs ih => exact fun t => ih _
  exact hfold .empty

/-- A table is read from an object of texts. -/
lemma exists_textEntries {v : Tree} {t : Table} (h : table v = some t) :
    ∃ xs, v = .object (textEntries xs) := by
  cases v with
  | object es =>
    have hex : ∀ {s : Table}, entries (fun key t v => (text v).map (t.insert key)) s es = some t →
        ∃ xs, es = textEntries xs := by
      clear h
      induction es with
      | nil => exact fun _ => ⟨[], rfl⟩
      | cons e es ih =>
        intro s h
        obtain ⟨_ | key, v⟩ := e
        · cases h
        · rw [entries, Option.bind_some] at h
          obtain ⟨s', hs', h⟩ := Option.bind_eq_some_iff.1 h
          obtain ⟨x, hx, -⟩ := Option.map_eq_some_iff.1 hs'
          obtain ⟨xs, rfl⟩ := ih h
          cases v <;> cases hx
          exact ⟨(key, x) :: xs, rfl⟩
    obtain ⟨xs, rfl⟩ := hex h
    exact ⟨xs, rfl⟩
  | _ => cases h

end View

end BenchRoster.Json
