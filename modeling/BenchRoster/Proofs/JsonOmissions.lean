/-
# Entries that are left out of a tree

A record may be an object that lacks entries, or a list whose last items are missing.  Here an entry
is written into such a tree, and what views make of both is compared.

* `Tree.Completed` relates a tree that lacks an entry to one in which it is written;
* `View.fits_entry` and `View.fits_inside` compare what is made of them, for the record that lacks
  the entry and for the records around it.
-/
import BenchRoster.Proofs.JsonViews
import BenchRoster.Proofs.Omittable
import Mathlib.Data.List.Nodup

namespace BenchRoster.Json

instance : Observed View where
  Yields view x := ∃ v, view v = some x
  exists_of_map := by
    rintro α β f view y ⟨v, h⟩
    obtain ⟨x, -, rfl⟩ := Option.map_eq_some_iff.1 h
    exact ⟨x, rfl⟩

/-- A tree lacks an entry, and another one has it: among the entries of an object, or behind the
items of a list. -/
inductive Tree.Completed : Slot Tree → Tree → Tree → Prop
  | entry {known : List String} {key : String} {written : Tree → Prop}
      {es₁ es₂ : List (Option String × Tree)} {v : Tree}
      (omitted : ∀ e ∈ es₁ ++ es₂, e.1 ≠ some key) (hv : written v) :
      Completed (.entry known key written) (.object (es₁ ++ es₂))
        (.object (es₁ ++ (some key, v) :: es₂))
  | item {known : List String} {key : String} {written : Tree → Prop} {vs : List Tree} {v : Tree}
      (hk : known[vs.length]? = some key) (hv : written v) :
      Completed (.entry known key written) (.list vs) (.list (vs ++ [v]))
  | inside {known : List String} {key : String} {slot : Slot Tree}
      {es₁ es₂ : List (Option String × Tree)} {v w : Tree} (h : Completed slot v w) :
      Completed (.inside known key slot) (.object (es₁ ++ (some key, v) :: es₂))
        (.object (es₁ ++ (some key, w) :: es₂))
  | insideItem {known : List String} {key : String} {slot : Slot Tree} {vs₁ vs₂ : List Tree}
      {v w : Tree} (hk : known[vs₁.length]? = some key) (h : Completed slot v w) :
      Completed (.inside known key slot) (.list (vs₁ ++ v :: vs₂)) (.list (vs₁ ++ w :: vs₂))

namespace View

variable {α π : Type}

/-- A view makes the same of a tree that lacks an entry and one that has it. -/
def Fits (slot : Slot Tree) (view : View α) : Prop :=
  ∀ v w : Tree, v.Completed slot w → view v = view w

lemma fits_map {β : Type} {slot : Slot Tree} {view : View α} (h : Fits slot view) (f : α → β) :
    Fits slot (Format.map f view) :=
  fun v w hc => congrArg (Option.map f) (h v w hc)

/-- Entries are added one part after the other. -/
lemma entries_append (add : String → π → View π) (p : π) (es₁ es₂ : List (Option String × Tree)) :
    entries add p (es₁ ++ es₂) = (entries add p es₁).bind fun q => entries add q es₂ := by
  induction es₁ generalizing p with
  | nil => rfl
  | cons e es ih =>
    obtain ⟨k, v⟩ := e
    rw [List.cons_append, entries, entries]
    cases k with
    | none => rfl
    | some key =>
      dsimp only [Option.bind_some]
      cases add key p v with
      | none => rfl
      | some q => exact ih q

section

variable {fields : List (Field View π)} {blank : π} {finish : π → Except String α}
  {f : Field View π} {change : π → π} {p q : π} {key : String} {v : Tree}

lemma addField_some (hf : Field.find? fields key = some f) (p : π) (v : Tree) :
    addField fields key p v = if f.seen p then none else (f.read v).map fun add => add p := by
  rw [addField, hf]

lemma addField_none (hf : Field.find? fields key = none) (p : π) (v : Tree) :
    addField fields key p v = some p := by
  rw [addField, hf]

/-- An entry for another key takes no notice of the change. -/
lemma addField_change (ho : Omittable fields blank finish f change) (hk : key ≠ f.key) (p : π)
    (v : Tree) :
    addField fields key (change p) v = (addField fields key p v).map change ∧
      ∀ q, f.seen p = false → addField fields key p v = some q → f.seen q = false := by
  rcases hg : Field.find? fields key with _ | g
  · rw [addField_none hg, addField_none hg]
    refine ⟨rfl, fun q hp hq => ?_⟩
    cases hq
    exact hp
  · obtain ⟨hm, rfl⟩ := Field.mem_of_find? hg
    have ha := ho.apart g hm hk
    rw [addField_some hg, addField_some hg, ha.seen_change]
    split_ifs
    · exact ⟨rfl, fun q _ hq => by cases hq⟩
    · cases hr : g.read v with
      | none => exact ⟨rfl, fun q _ hq => by cases hq⟩
      | some add =>
        refine ⟨congrArg some (ha.add_change ⟨v, hr⟩ p), fun q hp hq => ?_⟩
        cases hq
        rw [ha.seen_add ⟨v, hr⟩, hp]

/-- Entries for other keys take no notice of the change. -/
lemma entries_change (ho : Omittable fields blank finish f change)
    {es : List (Option String × Tree)} (hes : ∀ e ∈ es, e.1 ≠ some f.key) (p : π) :
    entries (addField fields) (change p) es = (entries (addField fields) p es).map change ∧
      ∀ q, f.seen p = false → entries (addField fields) p es = some q → f.seen q = false := by
  induction es generalizing p with
  | nil =>
    refine ⟨rfl, fun q hp hq => ?_⟩
    cases hq
    exact hp
  | cons e es ih =>
    obtain ⟨k, v⟩ := e
    obtain ⟨hk, htail⟩ := List.forall_mem_cons.1 hes
    rw [entries, entries]
    cases k with
    | none => exact ⟨rfl, fun q _ hq => by cases hq⟩
    | some key =>
      obtain ⟨hc, hs⟩ := addField_change ho (fun h => hk (congrArg some h)) p v
      dsimp only [Option.bind_some]
      rw [hc]
      cases ha : addField fields key p v with
      | none => exact ⟨rfl, fun q _ hq => by cases hq⟩
      | some r =>
        obtain ⟨hr, hu⟩ := ih htail r
        exact ⟨hr, fun q hp hq => hu q (hs r hp ha) hq⟩

/-- Behind the values of the first fields a list may have that of the next one. -/
lemma items_concat (ho : Omittable fields blank finish f change) (hv : f.read v = some change)
    {pre : List (Field View π)} (post : List (Field View π))
    (hm : ∀ g ∈ pre, g ∈ fields ∧ g.key ≠ f.key) {vs : List Tree} (hl : pre.length = vs.length)
    (p : π) :
    items (pre ++ f :: post) p (vs ++ [v]) = (items (pre ++ f :: post) p vs).map change ∧
      ∀ q, f.seen p = false → items (pre ++ f :: post) p vs = some q → f.seen q = false := by
  induction vs generalizing pre p with
  | nil =>
    obtain rfl := List.length_eq_zero_iff.1 hl
    have hi : items (f :: post) p [v] = some (change p) := by
      rw [items, hv, Option.bind_some]
      cases post <;> rfl
    refine ⟨hi, fun q hp hq => ?_⟩
    cases hq
    exact hp
  | cons w vs ih =>
    cases pre with
    | nil => cases hl
    | cons g pre =>
      obtain ⟨⟨hg, hk⟩, hm⟩ := List.forall_mem_cons.1 hm
      rw [List.cons_append, List.cons_append, items, items]
      cases hr : g.read w with
      | none => exact ⟨rfl, fun q _ hq => by cases hq⟩
      | some add =>
        obtain ⟨hi, hu⟩ := ih hm (Nat.succ.inj hl) (add p)
        refine ⟨hi, fun q hp hq => hu q ?_ hq⟩
        rw [(ho.apart g hg hk).seen_add ⟨w, hr⟩, hp]

/-- A value among others in a list counts by what is read from it. -/
lemma items_congr {fields : List (Field View π)} {w : Tree} {vs₁ vs₂ : List Tree}
    (h : ∀ g, fields[vs₁.length]? = some g → g.read v = g.read w) (p : π) :
    items fields p (vs₁ ++ v :: vs₂) = items fields p (vs₁ ++ w :: vs₂) := by
  induction vs₁ generalizing fields p with
  | nil =>
    cases fields with
    | nil => rfl
    | cons g gs => rw [List.nil_append, List.nil_append, items, items, h g rfl]
  | cons u vs ih =>
    cases fields with
    | nil => rfl
    | cons g gs =>
      rw [List.cons_append, List.cons_append, items, items]
      exact congrArg _ (funext fun add => ih (fun g' hg => h g' hg) (add p))

/-- The field at the place of a key is the one that is found for it, and those before it have other
keys. -/
lemma exists_of_getElem? (hn : (fields.map (·.key)).Nodup)
    (hf : Field.find? fields f.key = some f) {n : Nat}
    (hk : (fields.map (·.key))[n]? = some f.key) :
    ∃ pre post, fields = pre ++ f :: post ∧ pre.length = n ∧
      ∀ g ∈ pre, g ∈ fields ∧ g.key ≠ f.key := by
  rw [List.getElem?_map, Option.map_eq_some_iff] at hk
  obtain ⟨g, hg, hk⟩ := hk
  obtain rfl : g = f := List.inj_on_of_nodup_map hn (List.mem_of_getElem? hg)
    (Field.mem_of_find? hf).1 hk
  obtain ⟨hlt, hg⟩ := List.getElem?_eq_some_iff.1 hg
  have hs : fields = fields.take n ++ g :: fields.drop (n + 1) := by
    rw [← hg, List.getElem_cons_drop, List.take_append_drop]
  refine ⟨_, _, hs, List.length_take_of_le hlt.le, fun u hu => ⟨List.mem_of_mem_take hu, ?_⟩⟩
  rw [hs, List.map_append, List.map_cons, List.nodup_append] at hn
  exact hn.2.2 _ (List.mem_map_of_mem hu) _ List.mem_cons_self

/-- A partial record without the field is completed as with it. -/
lemma bind_finish {x : Option π} (ho : Omittable fields blank finish f change)
    (hx : ∀ q, x = some q → f.seen q = false) :
    (x.bind fun q => (finish q).toOption) = (x.map change).bind fun q => (finish q).toOption := by
  cases x with
  | none => rfl
  | some q =>
    rw [Option.map_some, Option.bind_some, Option.bind_some, ho.finish_eq q (hx q rfl)]

/-- **An entry that is left out of a tree is read as if its default had been written.** -/
lemma fits_entry (hn : (fields.map (·.key)).Nodup) (hf : Field.find? fields f.key = some f)
    (ho : Omittable fields blank finish f change) {written : Tree → Prop}
    (hw : ∀ v, written v → f.read v = some change) (name : String) :
    Fits (.entry (fields.map (·.key)) f.key written) (record name fields blank finish) := by
  intro v w hc
  cases hc with
  | @entry _ _ _ es₁ es₂ v omitted hv =>
    obtain ⟨h₁, h₂⟩ := List.forall_mem_append.1 omitted
    rw [record, record, entries_append, entries_append]
    cases he : entries (addField fields) blank es₁ with
    | none => rfl
    | some p =>
      have hp := (entries_change ho h₁ blank).2 p ho.unseen he
      have ha : addField fields f.key p v = some (change p) := by
        rw [addField_some hf, hp, hw v hv]
        rfl
      obtain ⟨hc, hu⟩ := entries_change ho h₂ p
      rw [Option.bind_some, Option.bind_some, entries, Option.bind_some, ha, Option.bind_some, hc]
      exact bind_finish ho fun q => hu q hp
  | item hk hv =>
    obtain ⟨pre, post, hs, hl, hm⟩ := exists_of_getElem? hn hf hk
    obtain ⟨hi, hu⟩ := items_concat ho (hw _ hv) post hm hl blank
    rw [record, record, hs, hi]
    exact bind_finish ho fun q => hu q ho.unseen

/-- A record around the place is read alike if the entry around it is. -/
lemma fits_inside (hn : (fields.map (·.key)).Nodup) (hf : Field.find? fields f.key = some f)
    {slot : Slot Tree} (hr : Fits slot f.read) (name : String) :
    Fits (.inside (fields.map (·.key)) f.key slot) (record name fields blank finish) := by
  intro v w hc
  cases hc with
  | inside hc =>
    rw [record, record, entries_append, entries_append]
    cases entries (addField fields) blank _ with
    | none => rfl
    | some p =>
      rw [Option.bind_some, Option.bind_some, entries, entries, Option.bind_some, Option.bind_some,
        addField_some hf, addField_some hf, hr _ _ hc]
  | insideItem hk hc =>
    obtain ⟨pre, post, hs, hl, -⟩ := exists_of_getElem? hn hf hk
    rw [record, record, items_congr fun g hg => ?_]
    rw [hs, ← hl, List.getElem?_append_right le_rfl, Nat.sub_self] at hg
    cases hg
    exact hr _ _ hc

end

end View

end BenchRoster.Json
