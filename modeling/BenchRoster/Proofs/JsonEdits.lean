/-
# Documents that say the same

Readers take no notice of some differences between documents, wherever they are.

* `Tree.Reordered` relates trees that differ in the order of entries;
* `Layout` describes documents, `Site` is a place in them, and `Follows` says that a view reads the
  documents of a layout;
* `Follows.reordered` says that the order of entries makes no difference;
* `Follows.factor` takes what is said of the view at a site to the view of the whole document, and
  with it `Follows.undeclared`, `Follows.repeated`, `Follows.lastValues` and `Follows.isSome_table`
  say what the entries of one record or one table come to.
-/
import BenchRoster.Proofs.JsonEntries

namespace BenchRoster.Json

variable {α β π : Type}

/-! ## Layouts -/

/-- In an object whose keys differ the entries stand in another order; the object may be anywhere in
a tree. -/
inductive Tree.Reordered : Tree → Tree → Prop
  | entries {es₁ es₂ : List (Option String × Tree)} (perm : es₁.Perm es₂)
      (distinct : (es₁.filterMap (·.1)).Nodup) : Reordered (.object es₁) (.object es₂)
  | entry {k : Option String} {v w : Tree} {es₁ es₂ : List (Option String × Tree)}
      (h : Reordered v w) :
      Reordered (.object (es₁ ++ (k, v) :: es₂)) (.object (es₁ ++ (k, w) :: es₂))
  | item {v w : Tree} {vs₁ vs₂ : List Tree} (h : Reordered v w) :
      Reordered (.list (vs₁ ++ v :: vs₂)) (.list (vs₁ ++ w :: vs₂))

/-- What is where in a document: a record, with what is behind the keys that it knows, or a table,
or something without either. -/
inductive Layout where
  | leaf
  | table
  | record (known : List (String × Layout))

/-- A place in documents of a layout, at the end of a path of known keys: the context of the value
at this place, and the layout that is expected there. -/
inductive Site : Layout → List String → (Tree → Tree) → Layout → Prop
  | here {l : Layout} : Site l [] (fun v => v) l
  | inside {known : List (String × Layout)} {key : String} {l l' : Layout} {path : List String}
      {child hole : Tree → Tree} (hk : (key, l) ∈ known)
      (hc : Child (known.map (·.1)) key child) (hs : Site l path hole l') :
      Site (.record known) (key :: path) (fun v => child (hole v)) l'

/-- A view reads the documents of a layout.  The records in it need nothing but their fields. -/
inductive Follows : {α : Type} → Layout → View α → Prop
  | leaf {α : Type} {view : View α} (h : ∀ v w, Tree.Reordered v w → view v = view w) :
      Follows .leaf view
  | table : Follows .table View.table
  | map {α β : Type} {l : Layout} {view : View α} (h : Follows l view) (f : α → β) :
      Follows l (Format.map f view)
  | optional {α : Type} {l : Layout} {view : View α} (h : Follows l view) :
      Follows l (View.optional view)
  | record {α π : Type} {known : List (String × Layout)} {fields : List (Field View π)}
      (keys : fields.map (·.key) = known.map (·.1)) (separate : View.Separate fields)
      (reads : ∀ f ∈ fields, ∀ x ∈ known, f.key = x.1 → Follows x.2 f.read) (name : String)
      (blank : π) {finish : π → Except String α} (finishes : ∀ p, ∃ x, finish p = .ok x) :
      Follows (.record known) (View.record name fields blank finish)

/-- The order of entries makes no difference. -/
lemma Follows.reordered {l : Layout} {view : View α} (h : Follows l view) {v w : Tree}
    (hr : v.Reordered w) : view v = view w := by
  induction h generalizing v w with
  | leaf h => exact h v w hr
  | table =>
    cases hr with
    | entries perm distinct => exact View.entries_perm View.commutes_insert perm distinct _
    | entry hr =>
      refine View.entries_congr (fun key t => ?_) _ _ _ _
      cases hr <;> rfl
    | item hr => rfl
  | map _ f ih => exact congrArg (Option.map f) (ih hr)
  | optional _ ih =>
    cases hr with
    | entries perm distinct => exact congrArg (Option.map some) (ih (.entries perm distinct))
    | entry hr => exact congrArg (Option.map some) (ih (.entry hr))
    | item hr => exact congrArg (Option.map some) (ih (.item hr))
  | @record _ _ known fields keys separate reads name blank finish _ ih =>
    have hfield : ∀ f ∈ fields, ∀ {v w : Tree}, v.Reordered w → f.read v = f.read w := by
      intro f hf v w hr
      obtain ⟨x, hx, hk⟩ : ∃ x ∈ known, x.1 = f.key :=
        List.mem_map.1 (keys ▸ List.mem_map_of_mem hf)
      exact ih f hf x hx hk.symm hr
    cases hr with
    | entries perm distinct =>
      exact congrArg (Option.bind · _)
        (View.entries_perm (View.commutes_addField separate) perm distinct blank)
    | entry hr =>
      refine congrArg (Option.bind · _) (View.entries_congr (fun key p => ?_) _ _ _ blank)
      rcases hf : Field.find? fields key with _ | f
      · rw [View.addField_none hf, View.addField_none hf]
      · rw [View.addField_some hf, View.addField_some hf,
          hfield f (Field.mem_of_find? hf).1 hr]
    | item hr =>
      exact congrArg (Option.bind · _)
        (View.items_congr (fun f hf => hfield f (List.mem_of_getElem? hf) hr) blank)

/-- A record of fields with views that follow their layouts. -/
lemma follows_record {fields : List (Field View π)} {known : List (String × Layout)}
    (h : List.Forall₂ (fun f x => f.key = x.1 ∧ Follows x.2 f.read) fields known)
    (hs : View.Separate fields) (name : String) (blank : π) {finish : π → Except String α}
    (hf : ∀ p, ∃ x, finish p = .ok x) :
    Follows (.record known) (View.record name fields blank finish) := by
  have hkeys : fields.map (·.key) = known.map (·.1) := by
    clear hs
    induction h with
    | nil => rfl
    | cons h _ ih => rw [List.map_cons, List.map_cons, h.1, ih]
  have hmem : ∀ x ∈ known, ∃ f ∈ fields, f.key = x.1 ∧ Follows x.2 f.read := by
    clear hs hkeys
    induction h with
    | nil => exact nofun
    | cons h _ ih =>
      refine List.forall_mem_cons.2 ⟨⟨_, List.mem_cons_self, h⟩, fun x hx => ?_⟩
      obtain ⟨f, hf, h⟩ := ih x hx
      exact ⟨f, List.mem_cons_of_mem _ hf, h⟩
  refine .record hkeys hs (fun f hf x hx hk => ?_) name blank hf
  obtain ⟨g, hg, hgk, hread⟩ := hmem x hx
  rwa [List.inj_on_of_nodup_map hs.distinct hf hg (hk.trans hgk.symm)]

lemma follows_flag : Follows .leaf View.flag := .leaf fun v w h => by cases h <;> rfl

/-- An object with more than one entry names no choice. -/
lemma choice_long (choices : List (String × α)) {es : List (Option String × Tree)}
    (h : 1 < es.length) : View.choice choices (.object es) = none := by
  rcases es with _ | ⟨⟨k, v⟩, _ | ⟨e, es⟩⟩
  · cases h
  · simp only [List.length_cons, List.length_nil] at h
    omega
  · rw [choice_object]
    cases k.bind fun word => choices.lookup word <;> cases View.null v <;> simp

lemma follows_choice (choices : List (String × α)) : Follows .leaf (View.choice choices) := by
  refine .leaf fun v w h => ?_
  -- a value in which there is something to reorder is not null
  have hnone : ∀ {k v w} {es₁ es₂ : List (Option String × Tree)}, Tree.Reordered v w →
      View.choice choices (.object (es₁ ++ (k, v) :: es₂)) = none ∧
        View.choice choices (.object (es₁ ++ (k, w) :: es₂)) = none := by
    intro k v w es₁ es₂ h
    have hnull : View.null v = none ∧ View.null w = none := by cases h <;> exact ⟨rfl, rfl⟩
    cases es₁ with
    | nil =>
      rw [List.nil_append, List.nil_append, choice_object, choice_object, hnull.1, hnull.2]
      cases k.bind fun word => choices.lookup word <;> exact ⟨rfl, rfl⟩
    | cons e es₁ =>
      have hlong : ∀ x, 1 < (e :: es₁ ++ x :: es₂).length := fun x => by
        simp only [List.length_append, List.length_cons]
        omega
      exact ⟨choice_long _ (hlong _), choice_long _ (hlong _)⟩
  cases h with
  | item => rfl
  | @entries es₁ es₂ perm _ =>
    rcases Nat.lt_or_ge 1 es₁.length with hl | hl
    · rw [choice_long _ hl, choice_long _ (perm.length_eq ▸ hl)]
    · rcases es₁ with _ | ⟨e, _ | ⟨e', es⟩⟩
      · rw [perm.nil_eq]
      · rw [List.singleton_perm.1 perm]
      · simp only [List.length_cons] at hl
        omega
  | entry h => rw [(hnone h).1, (hnone h).2]

/-! ## Sites -/

lemma isSome_bind_congr {a? b? : Option α} {k : α → Option β} (h : a?.isSome = b?.isSome)
    (hk : ∀ a b, a? = some a → b? = some b → (k a).isSome = (k b).isSome) :
    (a?.bind k).isSome = (b?.bind k).isSome := by
  cases a? <;> cases b? <;> cases h
  · rfl
  · exact hk _ _ rfl rfl

/-- **A site counts by the value that is there.**  Whatever a view makes of a document, it makes it
of what some view of the layout at the site makes of the value.  Whether it makes something of the
document depends only on whether something is made of the value. -/
lemma Follows.factor {l l' : Layout} {view : View α} (h : Follows l view) {path : List String}
    {hole : Tree → Tree} (hs : Site l path hole l') :
    ∃ (β : Type) (g : View β) (k : β → Option α), Follows l' g ∧
      (∀ v, view (hole v) = (g v).bind k) ∧
      ∀ v w a b, g v = some a → g w = some b → (k a).isSome = (k b).isSome := by
  have hhere : ∀ {γ : Type} {l : Layout} {view : View γ}, Follows l view →
      ∃ (β : Type) (g : View β) (k : β → Option γ), Follows l g ∧ (∀ v, view v = (g v).bind k) ∧
        ∀ v w a b, g v = some a → g w = some b → (k a).isSome = (k b).isSome :=
    fun {γ l view} h =>
      ⟨γ, view, some, h, fun v => (Option.bind_fun_some _).symm, fun _ _ _ _ _ _ => rfl⟩
  induction h generalizing l' path hole with
  | leaf h =>
    cases hs with
    | here => exact hhere (.leaf h)
  | table =>
    cases hs with
    | here => exact hhere .table
  | map _ f ih =>
    obtain ⟨β, g, k, hg, hview, hsome⟩ := ih hs
    refine ⟨β, g, fun b => (k b).map f, hg, fun v => ?_, fun v w a b ha hb => ?_⟩
    · change Option.map f _ = _
      rw [hview, Option.map_bind]
      rfl
    · rw [Option.isSome_map, Option.isSome_map, hsome v w a b ha hb]
  | @optional _ l view h ih =>
    cases hs with
    | here => exact hhere (.optional h)
    | @inside _ _ _ _ _ child hole hk hc hs =>
      obtain ⟨β, g, k, hg, hview, hsome⟩ := ih (.inside hk hc hs)
      refine ⟨β, g, fun b => (k b).map some, hg, fun v => ?_, fun v w a b ha hb => ?_⟩
      · rw [View.optional_of_child hc, hview, Option.map_bind]
        rfl
      · rw [Option.isSome_map, Option.isSome_map, hsome v w a b ha hb]
  | @record _ _ known fields keys separate reads name blank finish finishes ih =>
    cases hs with
    | here => exact hhere (.record keys separate reads name blank finishes)
    | @inside _ _ _ _ _ child hole hk hc hs =>
      obtain ⟨f, hf, rfl⟩ := List.mem_map.1 (keys ▸ List.mem_map_of_mem (f := Prod.fst) hk)
      obtain ⟨β, g, k, hg, hread, hsome⟩ := ih f hf _ hk rfl hs
      obtain ⟨k', hc', hview⟩ := View.exists_of_child separate hf (keys ▸ hc) name blank finish
      refine ⟨β, g, fun b => (k b).bind k', hg, fun v => ?_, fun v w a b ha hb => ?_⟩
      · rw [hview, hread, Option.bind_assoc]
      · have hv : f.read (hole v) = k a := by rw [hread, ha, Option.bind_some]
        have hw : f.read (hole w) = k b := by rw [hread, hb, Option.bind_some]
        exact isSome_bind_congr (hsome v w a b ha hb) fun x y hx hy =>
          hc'.isSome_eq finishes (hv.trans hx) (hw.trans hy)

/-! ## Records and tables in a document -/

/-- A view of a record is a record, but for what is made of it. -/
lemma Follows.exists_record {known : List (String × Layout)} {view : View α}
    (h : Follows (.record known) view) :
    ∃ (π : Type) (fields : List (Field View π)) (blank : π) (k : π → Option α),
      fields.map (·.key) = known.map (·.1) ∧ View.Separate fields ∧
        ∀ es, view (.object es) = (View.entries (View.addField fields) blank es).bind k := by
  generalize hl : Layout.record known = l at h
  induction h with
  | leaf => cases hl
  | table => cases hl
  | map _ f ih =>
    obtain ⟨π, fields, blank, k, hkeys, hs, hview⟩ := ih hl
    refine ⟨π, fields, blank, fun p => (k p).map f, hkeys, hs, fun es => ?_⟩
    change Option.map f _ = _
    rw [hview, Option.map_bind]
    rfl
  | optional _ ih =>
    obtain ⟨π, fields, blank, k, hkeys, hs, hview⟩ := ih hl
    refine ⟨π, fields, blank, fun p => (k p).map some, hkeys, hs, fun es => ?_⟩
    rw [View.optional, hview, Option.map_bind]
    · rfl
    · exact nofun
  | @record _ π _ fields keys separate reads name blank finish =>
    cases hl
    exact ⟨π, fields, blank, fun p => (finish p).toOption, keys, separate, fun es => rfl⟩

/-- A view of a table is a table, but for what is made of it. -/
lemma Follows.exists_table {view : View α} (h : Follows .table view) :
    ∃ f : Table → α, ∀ es, view (.object es) = (View.table (.object es)).map f := by
  generalize hl : Layout.table = l at h
  induction h with
  | leaf => cases hl
  | table => exact ⟨id, fun es => Option.map_id.symm ▸ rfl⟩
  | map _ f ih =>
    obtain ⟨g, hg⟩ := ih hl
    refine ⟨f ∘ g, fun es => ?_⟩
    change Option.map f _ = _
    rw [hg, Option.map_map]
  | optional _ ih =>
    obtain ⟨g, hg⟩ := ih hl
    refine ⟨some ∘ g, fun es => ?_⟩
    rw [View.optional, hg, Option.map_map]
    exact nofun
  | record => cases hl

section

variable {l : Layout} {view : View α} {path : List String} {hole : Tree → Tree}
  {known : List (String × Layout)} {key : String}

/-- An entry that a record somewhere in a document does not know makes no difference. -/
lemma Follows.undeclared (h : Follows l view) (hs : Site l path hole (.record known))
    (hk : key ∉ known.map (·.1)) (v : Tree) (es₁ es₂ : List (Option String × Tree)) :
    view (hole (.object (es₁ ++ (some key, v) :: es₂))) = view (hole (.object (es₁ ++ es₂))) := by
  obtain ⟨β, g, k, hg, hview, -⟩ := h.factor hs
  obtain ⟨π, fields, blank, finish, hkeys, -, hg⟩ := hg.exists_record
  rw [hview, hview, hg, hg, View.entries_undeclared (hkeys ▸ hk)]

/-- A document in which a record has an entry that it knows twice is refused. -/
lemma Follows.repeated (h : Follows l view) (hs : Site l path hole (.record known))
    (hk : key ∈ known.map (·.1)) (v w : Tree) (es₁ es₂ es₃ : List (Option String × Tree)) :
    view (hole (.object (es₁ ++ (some key, v) :: es₂ ++ (some key, w) :: es₃))) = none := by
  obtain ⟨β, g, k, hg, hview, -⟩ := h.factor hs
  obtain ⟨π, fields, blank, finish, hkeys, hsep, hg⟩ := hg.exists_record
  obtain ⟨f, hf, rfl⟩ := List.mem_map.1 (hkeys ▸ hk)
  rw [hview, hg, View.entries_repeated hsep hf]
  rfl

/-- What is made of a document depends on what the entries of a table in it say last. -/
lemma Follows.lastValues (h : Follows l view) (hs : Site l path hole .table)
    {xs ys : List (String × String)} (hxy : ∀ key, lastValue? xs key = lastValue? ys key) :
    view (hole (.object (textEntries xs))) = view (hole (.object (textEntries ys))) := by
  obtain ⟨β, g, k, hg, hview, -⟩ := h.factor hs
  obtain ⟨f, hg⟩ := hg.exists_table
  have ht : Table.ofList xs = Table.ofList ys := Table.eq_of_find? fun key => by
    rw [Table.find?_ofList, Table.find?_ofList, hxy]
  rw [hview, hview, hg, hg, View.table_textEntries, View.table_textEntries, ht]

/-- Whether something is made of a document does not depend on the texts in a table. -/
lemma Follows.isSome_table (h : Follows l view) (hs : Site l path hole .table)
    (xs ys : List (String × String)) :
    (view (hole (.object (textEntries xs)))).isSome =
      (view (hole (.object (textEntries ys)))).isSome := by
  obtain ⟨β, g, k, hg, hview, hsome⟩ := h.factor hs
  obtain ⟨f, hg⟩ := hg.exists_table
  have ht : ∀ zs, g (.object (textEntries zs)) = some (f (.ofList zs)) := fun zs => by
    rw [hg, View.table_textEntries, Option.map_some]
  rw [hview, hview, ht, ht]
  exact hsome _ _ _ _ (ht xs) (ht ys)

end

end BenchRoster.Json
