/-
# Entries that are left out

A record may lack entries, and then it is read as if their defaults had been written.  Here an entry
is written into a document that lacks it, at any place among the other entries, and the outcomes of
reading both documents are compared.

* `Completed` relates a document that lacks the entry to one in which it is written;
* `Decode.fits_entry` and `Decode.fits_inside` compare the outcomes, for the record that lacks the
  entry and for the records around it.
-/
import BenchRoster.Proofs.Positions

namespace BenchRoster

namespace Yaml

instance : Observed Decode where
  Yields read x := ∃ scope n jumps jumps', read scope n jumps = .ok (x, jumps')
  exists_of_map := by
    rintro α β f read y ⟨scope, n, jumps, jumps', h⟩
    change (read scope n jumps).map _ = _ at h
    generalize read scope n jumps = x at h
    cases x with
    | error u => cases h
    | ok x =>
      cases h
      exact ⟨x.1, rfl⟩

/-! ## Documents that are completed -/

/-- A key that shows a text, as it stands or by an alias. -/
def Document.Shows (d : Document) (text : String) : Node → Prop
  | .scalar s _ => s.text = text
  | .reference i _ => ∃ s m, d.targets.lookup i = some (.scalar s m) ∧ s.text = text
  | _ => False

/-- A key shows one text. -/
lemma Document.Shows.unique {d : Document} {s t : String} {n : Node} (hs : d.Shows s n)
    (ht : d.Shows t n) : s = t := by
  cases n with
  | scalar x m => exact hs.symm.trans ht
  | reference i m =>
    obtain ⟨x, a, hx, rfl⟩ := hs
    obtain ⟨y, b, hy, rfl⟩ := ht
    rw [hx] at hy
    cases hy
    rfl
  | _ => exact hs.elim

/-- Entries of a record with the given keys that are read alike in two documents.  The value of a
key that the record does not know has to be there, and is not looked at. -/
inductive Other (shared : ℕ → Prop) (known : List String) : Node × Node → Node × Node → Prop
  | alike {x y : Node × Node} (h : AlikeEntry shared x y) : Other shared known x y
  | unknown {s : Scalar} {v w : Node} (hs : s.text ∉ known) (hw : v.whole = w.whole)
      (a b : Mark) : Other shared known (.scalar s a, v) (.scalar s b, w)

/-- A value that a record without entries may be written as. -/
def Hollow : Node → Prop
  | .void => True
  | .scalar s _ => s.isVoid = true
  | _ => False

/-- A value has no entry for a key. -/
inductive Document.Omits (d : Document) (key : String) : Node → Prop
  | entries {es : List (Node × Node)} (h : ∀ x ∈ es, ¬d.Shows key x.1) (t : Option TagText)
      (m : Mark) : d.Omits key (.mapping t m es)
  | hollow {n : Node} (h : Hollow n) : d.Omits key n

/-- A value lacks an entry, and another one has it: among other entries that are read alike, or
alone where there was no entry before.  An entry around that place may be an alias. -/
inductive Completed (shared : ℕ → Prop) (d e : Document) : Slot Node → Node → Node → Prop
  | entry {known : List String} {key : String} {written : Node → Prop}
      {es₁ es₂ fs₁ fs₂ : List (Node × Node)} {s : Scalar} {v : Node}
      (before : List.Forall₂ (Other shared known) es₁ fs₁)
      (after : List.Forall₂ (Other shared known) es₂ fs₂)
      (omitted : ∀ x ∈ es₁ ++ es₂, ¬d.Shows key x.1) (hk : s.text = key) (hv : written v)
      (t u : Option TagText) (a b c : Mark) :
      Completed shared d e (.entry known key written) (.mapping t a (es₁ ++ es₂))
        (.mapping u b (fs₁ ++ (.scalar s c, v) :: fs₂))
  | alone {known : List String} {key : String} {written : Node → Prop} {n v : Node} {s : Scalar}
      (hn : Hollow n) (hk : s.text = key) (hv : written v) (u : Option TagText) (b c : Mark) :
      Completed shared d e (.entry known key written) n (.mapping u b [(.scalar s c, v)])
  | inside {known : List String} {key : String} {slot : Slot Node}
      {es₁ es₂ fs₁ fs₂ : List (Node × Node)} {k l v w : Node}
      (before : List.Forall₂ (Other shared known) es₁ fs₁)
      (after : List.Forall₂ (Other shared known) es₂ fs₂) (hk : k.Alike shared l)
      (hs : d.Shows key k) (hv : Completed shared d e slot v w) (t u : Option TagText)
      (a b : Mark) :
      Completed shared d e (.inside known key slot) (.mapping t a (es₁ ++ (k, v) :: es₂))
        (.mapping u b (fs₁ ++ (l, w) :: fs₂))
  | «alias» {slot : Slot Node} {i j : ℕ} {n m : Node} (hi : d.targets.lookup i = some n)
      (hj : e.targets.lookup j = some m) (h : Completed shared d e slot n m) (a b : Mark) :
      Completed shared d e slot (.reference i a) (.reference j b)

namespace Decode

variable {shared : ℕ → Prop} {d e : Document} {α π : Type}

/-- A reader gives outcomes that agree for a value that lacks an entry and one that has it. -/
def Fits (shared : ℕ → Prop) (d e : Document) (slot : Slot Node) (read : Decode α) : Prop :=
  ∀ path n m jumps, Completed shared d e slot n m →
    Agree (read ⟨d, path⟩ n jumps) (read ⟨e, path⟩ m jumps)

lemma fits_following (h : d.size ≤ e.size) {slot : Slot Node} {read : Direct α}
    (hr : Fits shared d e slot read) : Fits shared d e slot (following read) := by
  intro path n m jumps hc
  refine Agree.placed ?_ _ _ path
  have hd := hr path n m jumps hc
  cases hc with
  | «alias» hi hj hc a b =>
    exact agree_targets h hi hj path jumps ((hr path _ _ _ hc).placed _ _ path)
  | alone hn hk hv u b c =>
    cases n with
    | void => exact hd
    | scalar s a => exact hd
    | _ => exact hn.elim
  | _ => exact hd

lemma fits_map {β : Type} {slot : Slot Node} {read : Decode α} (hr : Fits shared d e slot read)
    (f : α → β) : Fits shared d e slot (Format.map f read) :=
  fun path n m jumps hc => (hr path n m jumps hc).map _

/-- A placed outcome is a value only if the outcome was. -/
lemma placed_eq_ok {mark : Mark} {scope : Scope} {x : Except Failure α} {a : α} :
    placed mark scope x = .ok a ↔ x = .ok a := by
  cases x <;> simp [placed, Except.mapError]

lemma wrongType_ne_ok {scope : Scope} {expected : String} {n : Node} {a : α} :
    wrongType scope expected n ≠ .ok a := by
  cases n with
  | cut =>
    rw [wrongType, cutOff]
    split <;> exact nofun
  | _ => exact nofun

/-- A key shows what is read from it. -/
lemma shows_of_key {expected name : String} {path : Path} {n : Node} {jumps jumps' : ℕ}
    (h : textAs expected ⟨d, path⟩ n jumps = .ok (name, jumps')) : d.Shows name n := by
  have h := placed_eq_ok.1 h
  cases n with
  | scalar s m =>
    cases h
    rfl
  | reference i m =>
    dsimp only [target] at h
    split at h
    · cases h
    · split at h
      · rename_i n hn
        have h := placed_eq_ok.1 h
        cases n with
        | scalar s m =>
          cases h
          exact ⟨s, m, hn, rfl⟩
        | _ => exact absurd h wrongType_ne_ok
      · cases h
  | _ => exact absurd h wrongType_ne_ok

lemma map_map {β γ : Type} (x : Except Failure α) (f : α → β) (g : β → γ) :
    (x.map f).map g = x.map fun a => g (f a) := by
  cases x <;> rfl

section

variable {fields : List (Field Decode π)} {blank : π} {finish : π → Except String α}
  {f : Field Decode π} {change : π → π}

lemma find?_eq_none {key : String} (h : key ∉ fields.map (·.key)) :
    Field.find? fields key = none := by
  rw [Field.find?, List.find?_eq_none]
  intro g hg hk
  exact h (List.mem_map.2 ⟨g, hg, by simpa using hk⟩)

/-- An unknown entry leaves a partial record as it is. -/
lemma agree_unknown (h : d.Beside shared e) {name : String}
    (hk : Field.find? fields name = none) {v w : Node} (hw : v.whole = w.whole) (q : Path) (p : π)
    (change : π → π) (jumps : ℕ) :
    Agree ((addField fields ⟨d, q⟩ name p v jumps).map (Prod.map change id))
      (addField fields ⟨e, q⟩ name (change p) w jumps) := by
  rw [addField_none hk, addField_none hk, map_map]
  exact (agree_skip h hw).map_of_eq fun _ _ => rfl

/-- An entry of a record agrees for each change of the partial record that the fields it shows take
no notice of. -/
lemma agreeEntry_of_other (h : d.Beside shared e) (hb : ∀ g ∈ fields, Blind shared d e g.read)
    {x y : Node × Node} (hx : Other shared (fields.map (·.key)) x y)
    (hc : ∀ g ∈ fields, d.Shows g.key x.1 → (∀ p, g.seen (change p) = g.seen p) ∧
      ∀ add, Observed.Yields g.read add → ∀ p, add (change p) = change (add p)) (path : Path) :
    AgreeEntry (textAs "field identifier") (addField fields) d e path change x y := by
  cases hx with
  | unknown hs hw a b =>
    refine ⟨fun jumps => .refl _, fun name jumps jumps' hn p => ?_⟩
    cases hn
    exact agree_unknown h (find?_eq_none hs) hw _ p change _
  | alike hx =>
    refine ⟨fun jumps => blind_textAs h _ path _ _ jumps hx.1, fun name jumps jumps' hn p => ?_⟩
    obtain ⟨q, hd, he⟩ := exists_entryScope (d := d) (e := e) path hx.1
    rw [hd, he]
    rcases hk : Field.find? fields name with _ | g
    · exact agree_unknown h hk hx.2.whole_eq q p change _
    · obtain ⟨hg, rfl⟩ := Field.mem_of_find? hk
      obtain ⟨hseen, hadd⟩ := hc g hg (shows_of_key hn)
      rw [addField_some hk, addField_some hk, hseen]
      split
      · exact .error rfl
      · rw [map_map]
        refine (hb g hg q _ _ jumps' hx.2).map_of_eq fun z hz => ?_
        exact Prod.ext (hadd z.1 ⟨_, _, _, _, hz⟩ p).symm rfl

/-- Entries are read one part after the other. -/
lemma entries_append {key : Decode String}
    {add : Scope → String → π → Node → ℕ → Except Failure (π × ℕ)} (scope : Scope) (p : π)
    (jumps : ℕ) (es₁ es₂ : List (Node × Node)) :
    entries key add scope p jumps (es₁ ++ es₂) =
      entries key add scope p jumps es₁ >>= fun x => entries key add scope x.1 x.2 es₂ := by
  induction es₁ generalizing p jumps with
  | nil => rfl
  | cons x es ih =>
    obtain ⟨k, v⟩ := x
    rw [List.cons_append, entries, entries]
    rcases key scope k jumps with u | ⟨name, jumps'⟩
    · rfl
    · dsimp only [bind, Except.bind]
      rcases add (entryScope scope k) name p v jumps' with u | ⟨q, jumps''⟩
      · rfl
      · exact ih q jumps''

/-- What is added for another key does not show in a field that may be left out. -/
lemma unseen_of_addField (ho : Omittable fields blank finish f change) {scope : Scope}
    {name : String} {p q : π} {v : Node} {jumps jumps' : ℕ} (hn : name ≠ f.key)
    (hp : f.seen p = false) (h : addField fields scope name p v jumps = .ok (q, jumps')) :
    f.seen q = false := by
  rcases hk : Field.find? fields name with _ | g
  · rw [addField_none hk] at h
    rcases hs : skip scope v with u | x
    · rw [hs] at h
      cases h
    · rw [hs] at h
      cases h
      exact hp
  · obtain ⟨hg, rfl⟩ := Field.mem_of_find? hk
    rw [addField_some hk] at h
    split at h
    · cases h
    · rcases hr : g.read scope v jumps with u | x
      · rw [hr] at h
        cases h
      · rw [hr] at h
        cases h
        rw [((ho.apart g hg hn).seen_add ⟨_, _, _, _, hr⟩ p), hp]

/-- As long as its key does not show, a field that may be left out is not seen. -/
lemma unseen_of_entries (ho : Omittable fields blank finish f change) {path : Path}
    {es : List (Node × Node)} {p q : π} {jumps jumps' : ℕ}
    (hes : ∀ x ∈ es, ¬d.Shows f.key x.1) (hp : f.seen p = false)
    (h : entries (textAs "field identifier") (addField fields) ⟨d, path⟩ p jumps es =
      .ok (q, jumps')) : f.seen q = false := by
  induction es generalizing p jumps with
  | nil =>
    cases h
    exact hp
  | cons x es ih =>
    obtain ⟨hx, hes⟩ := List.forall_mem_cons.1 hes
    rw [entries] at h
    rcases hk : textAs "field identifier" ⟨d, path⟩ x.1 jumps with u | ⟨name, j⟩
    · rw [hk] at h
      cases h
    · rw [hk] at h
      dsimp only [bind, Except.bind] at h
      rcases ha : addField fields (entryScope ⟨d, path⟩ x.1) name p x.2 j with u | ⟨p', j'⟩
      · rw [ha] at h
        cases h
      · rw [ha] at h
        have hn : name ≠ f.key := fun hn => hx (hn ▸ shows_of_key hk)
        exact ih hes (unseen_of_addField ho hn hp ha) h

/-- Entries that agree without any change. -/
lemma agree_others (h : d.Beside shared e) (hb : ∀ g ∈ fields, Blind shared d e g.read)
    {es fs : List (Node × Node)}
    (hes : List.Forall₂ (Other shared (fields.map (·.key))) es fs) (path : Path) (p : π)
    (jumps : ℕ) :
    Agree (entries (textAs "field identifier") (addField fields) ⟨d, path⟩ p jumps es)
      (entries (textAs "field identifier") (addField fields) ⟨e, path⟩ p jumps fs) := by
  have ho : List.Forall₂
      (AgreeEntry (textAs "field identifier") (addField fields) d e path id) es fs :=
    hes.imp fun x y hx => agreeEntry_of_other h hb hx
      (fun _ _ _ => ⟨fun _ => rfl, fun _ _ _ => rfl⟩) path
  have ha := agree_entries ho p jumps
  rwa [Prod.map_id, Except.map_id] at ha

lemma finish_eq_ok {p : π} {x : α} {j j' : ℕ}
    (h : (match (finish p).mapError Mismatch.missingField with
      | .ok y => Except.ok (y, j)
      | .error m => .error (Failure.mismatch m none)) = .ok (x, j')) : finish p = .ok x := by
  rcases hp : finish p with u | y <;> rw [hp] at h <;> cases h
  rfl

/-- A record that is read is a partial record that was completed: the blank one for a value without
entries, or else what the entries were read into. -/
lemma exists_of_record {name : String} {path : Path} {n : Node} {jumps jumps' : ℕ} {x : α}
    (hr : ∀ i m, n ≠ .reference i m)
    (h : record name fields blank finish ⟨d, path⟩ n jumps = .ok (x, jumps')) :
    ∃ p, finish p = .ok x ∧ (Hollow n ∧ p = blank ∨
      ∃ t m es j, n = .mapping t m es ∧ entries (textAs "field identifier") (addField fields)
        ⟨d, path⟩ blank jumps es = .ok (p, j)) := by
  rw [record_eq] at h
  have h := placed_eq_ok.1 h
  cases n with
  | reference i m => exact absurd rfl (hr i m)
  | mapping t m es =>
    dsimp only at h
    rcases he : entries (textAs "field identifier") (addField fields) ⟨d, path⟩ blank jumps es
      with u | ⟨p, j⟩ <;> rw [he] at h
    · cases h
    · exact ⟨p, finish_eq_ok h, .inr ⟨t, m, es, j, rfl, he⟩⟩
  | void => exact ⟨blank, finish_eq_ok h, .inl ⟨trivial, rfl⟩⟩
  | scalar s m =>
    dsimp only at h
    split at h
    · exact ⟨blank, finish_eq_ok h, .inl ⟨‹_›, rfl⟩⟩
    · exact absurd h wrongType_ne_ok
  | _ => exact absurd h wrongType_ne_ok

/-- A record that is read from a value that omits a field is completed without it. -/
lemma unseen_of_record (ho : Omittable fields blank finish f change) {name : String} {path : Path}
    {n : Node} {jumps jumps' : ℕ} {x : α} (hn : d.Omits f.key n)
    (h : record name fields blank finish ⟨d, path⟩ n jumps = .ok (x, jumps')) :
    ∃ p, f.seen p = false ∧ finish p = .ok x := by
  have hr : ∀ i m, n ≠ .reference i m := by
    rintro i m rfl
    cases hn with
    | hollow h => exact h
  obtain ⟨p, hp, ⟨-, rfl⟩ | ⟨t, m, es, j, rfl, he⟩⟩ := exists_of_record hr h
  · exact ⟨p, ho.unseen, hp⟩
  · cases hn with
    | entries hes => exact ⟨p, unseen_of_entries ho hes ho.unseen he, hp⟩
    | hollow hh => exact hh.elim

/-- The entries behind one that is left out agree with those behind it where it is written. -/
lemma agree_behind (h : d.Beside shared e) (hb : ∀ g ∈ fields, Blind shared d e g.read)
    (ho : Omittable fields blank finish f change) {es fs : List (Node × Node)}
    (hes : List.Forall₂ (Other shared (fields.map (·.key))) es fs)
    (hk : ∀ x ∈ es, ¬d.Shows f.key x.1) (path : Path) (p : π) (jumps : ℕ) :
    Agree ((entries (textAs "field identifier") (addField fields) ⟨d, path⟩ p jumps es).map
        (Prod.map change id))
      (entries (textAs "field identifier") (addField fields) ⟨e, path⟩ (change p) jumps fs) := by
  refine agree_entries (((List.forall₂_and_left _ _).2 ⟨hk, hes⟩).imp fun x y hxy => ?_) p jumps
  refine agreeEntry_of_other h hb hxy.2 (fun g hg hs => ?_) path
  have hn : g.key ≠ f.key := fun hn => hxy.1 (hn ▸ hs)
  exact ⟨(ho.apart g hg hn).seen_change, fun add ha => (ho.apart g hg hn).add_change ha⟩

/-- The default that is written for a field that has not been seen. -/
lemma entries_written {v : Node} (hf : Field.find? fields f.key = some f) {p : π}
    (hp : f.seen p = false) (hv : ∀ scope jumps, f.read scope v jumps = .ok (change, jumps))
    {s : Scalar} (hs : s.text = f.key) (c : Mark) (path : Path) (fs : List (Node × Node))
    (jumps : ℕ) :
    entries (textAs "field identifier") (addField fields) ⟨e, path⟩ p jumps
        ((.scalar s c, v) :: fs) =
      entries (textAs "field identifier") (addField fields) ⟨e, path⟩ (change p) jumps fs := by
  have hk : textAs "field identifier" ⟨e, path⟩ (.scalar s c) jumps = .ok (f.key, jumps) := by
    rw [← hs]
    rfl
  rw [entries, hk]
  dsimp only [bind, Except.bind]
  rw [addField_some hf, hp, hv]
  rfl

/-- **An entry that is left out is read as if its default had been written.** -/
lemma fits_entry (h : d.Beside shared e) (hb : ∀ g ∈ fields, Blind shared d e g.read)
    (hf : Field.find? fields f.key = some f) (ho : Omittable fields blank finish f change)
    {written : Node → Prop}
    (hw : ∀ v, written v → ∀ scope jumps, f.read scope v jumps = .ok (change, jumps))
    (name : String) :
    Fits shared d e (.entry (fields.map (·.key)) f.key written)
      (record name fields blank finish) := by
  rw [record_eq]
  refine fits_following h.size_le fun path n m jumps hc => ?_
  cases hc with
  | entry before after omitted hk hv t u a b c =>
    dsimp only
    obtain ⟨homitted₁, homitted₂⟩ := List.forall_mem_append.1 omitted
    rw [entries_append, entries_append, bind_assoc, bind_assoc]
    refine (agree_others h hb before path blank jumps).bind fun x hx => ?_
    have hp := unseen_of_entries ho homitted₁ ho.unseen hx
    rw [entries_written hf hp (hw _ hv) hk]
    refine (agree_behind h hb ho after homitted₂ path x.1 x.2).bind_map fun y hy => ?_
    have hq := unseen_of_entries ho homitted₂ hp hy
    dsimp only [Prod.map]
    rw [ho.finish_eq _ hq]
    exact .refl _
  | @alone _ _ _ n v s hn hk hv u b c =>
    have he := entries_written (e := e) hf ho.unseen (hw v hv) hk c path [] jumps
    have hfinish := ho.finish_eq blank ho.unseen
    cases n with
    | void =>
      dsimp only
      rw [he]
      dsimp only [entries, bind, Except.bind]
      rw [hfinish]
      exact .refl _
    | scalar s a =>
      have hs : s.isVoid = true := hn
      dsimp only
      rw [he, if_pos hs]
      dsimp only [entries, bind, Except.bind]
      rw [hfinish]
      exact .refl _
    | _ => exact hn.elim
  | «alias» hi hj hc a b => exact .refl _

/-- A record around the place is read alike if the entry around it is. -/
lemma fits_inside (h : d.Beside shared e) (hb : ∀ g ∈ fields, Blind shared d e g.read)
    (hf : Field.find? fields f.key = some f) {slot : Slot Node} (hr : Fits shared d e slot f.read)
    (name : String) :
    Fits shared d e (.inside (fields.map (·.key)) f.key slot)
      (record name fields blank finish) := by
  rw [record_eq]
  refine fits_following h.size_le fun path n m jumps hc => ?_
  cases hc with
  | @inside _ _ _ es₁ es₂ fs₁ fs₂ k l v w before after hk hs hv t u a b =>
    have hs : AgreeEntry (textAs "field identifier") (addField fields) d e path id
        (k, v) (l, w) := by
      refine ⟨fun jumps => blind_textAs h _ path _ _ jumps hk, fun name jumps jumps' hn p => ?_⟩
      obtain ⟨q, hd, he⟩ := exists_entryScope (d := d) (e := e) path hk
      obtain rfl := (shows_of_key hn).unique hs
      rw [hd, he, Prod.map_id, Except.map_id, addField_some hf, addField_some hf]
      dsimp only [id_eq]
      split
      · exact .refl _
      · exact (hr q v w _ hv).map _
    have ho : ∀ x y, Other shared (fields.map (·.key)) x y →
        AgreeEntry (textAs "field identifier") (addField fields) d e path id x y :=
      fun x y hx => agreeEntry_of_other h hb hx
        (fun _ _ _ => ⟨fun _ => rfl, fun _ _ _ => rfl⟩) path
    have ha := agree_entries (List.rel_append (before.imp ho) (.cons hs (after.imp ho)))
      blank jumps
    rw [Prod.map_id, Except.map_id] at ha
    exact ha.bind fun x _ => .refl _
  | «alias» hi hj hc a b => exact .refl _

end

end Decode

end Yaml

end BenchRoster
