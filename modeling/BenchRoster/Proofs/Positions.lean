/-
# Documents that differ in their positions

Where a value stands in its text has no part in how it is read; it only shows in the messages of
failures.  Two documents are compared here that hold the same values at other positions, with the
same anchors as far as these are shared.  The second document may be the larger one, and so follow
aliases a little longer.

* `Node.Alike` compares values, and `Document.Beside` says what two documents have in common;
* `Agree` compares the outcomes of reading, and `Decode.Blind` says that a reader gives outcomes
  that agree for values that are alike;
* every reader that is put together from the readers of this format is blind: `Decode.blind_record`
  and the lemmas before it.
-/
import BenchRoster.Config.Reading
import BenchRoster.Proofs.Omittable
import Mathlib.Data.List.Forall2
import Mathlib.Tactic.Lemma

namespace BenchRoster.Yaml

/-! ## Failures without their positions -/

/-- A fault at no place in particular. -/
def Fault.unplaced (f : Fault) : Fault :=
  { f with mark := .start, context := f.context.map fun c => (c.1, .start), offset := 0 }

def Breakage.unplaced : Breakage → Breakage
  | .text f => .text f.unplaced
  | .unknownAnchor _ => .unknownAnchor .start

/-- The path to a value is kept: it does not depend on the text around it. -/
def Failure.unplaced : Failure → Failure
  | .broken b => .broken b.unplaced
  | .mismatch m place => .mismatch m (place.map fun p => (.start, p.2))
  | f => f

/-- The outcome of reading a document agrees with that of reading another one: it is the same up to
positions, or aliases were followed too often. -/
inductive Agree {α : Type} : Except Failure α → Except Failure α → Prop
  | limited (y : Except Failure α) : Agree (.error .tooManyAliases) y
  | ok (a : α) : Agree (.ok a) (.ok a)
  | error {f g : Failure} (h : f.unplaced = g.unplaced) : Agree (.error f) (.error g)

namespace Agree

variable {α β : Type} {x y : Except Failure α}

lemma refl (x : Except Failure α) : Agree x x := by
  cases x with
  | error f => exact .error rfl
  | ok a => exact .ok a

/-- What is done next agrees as well if it does for each value. -/
lemma bind (h : Agree x y) {f g : α → Except Failure β}
    (hf : ∀ a, x = .ok a → Agree (f a) (g a)) : Agree (x >>= f) (y >>= g) := by
  cases h with
  | limited y => exact .limited _
  | ok a => exact hf a rfl
  | error h => exact .error h

/-- The second outcome may be that of the first after a change. -/
lemma bind_map {c : α → β} {x : Except Failure α} {y : Except Failure β} {γ : Type}
    (h : Agree (x.map c) y) {f : α → Except Failure γ} {g : β → Except Failure γ}
    (hf : ∀ a, x = .ok a → Agree (f a) (g (c a))) : Agree (x >>= f) (y >>= g) := by
  cases x with
  | error u =>
    change Agree (.error u) y at h
    cases h with
    | limited y => exact .limited _
    | error h => exact .error h
  | ok a =>
    change Agree (.ok (c a)) y at h
    cases h
    exact hf a rfl

/-- Values may be changed in two ways that come to the same for the values at hand. -/
lemma map_of_eq (h : Agree x y) {f g : α → β} (hfg : ∀ a, x = .ok a → f a = g a) :
    Agree (x.map f) (y.map g) := by
  cases h with
  | limited y => exact .limited _
  | ok a =>
    rw [Except.map, Except.map, hfg a rfl]
    exact .ok _
  | error h => exact .error h

lemma map (h : Agree x y) (f : α → β) : Agree (x.map f) (y.map f) :=
  h.map_of_eq fun _ _ => rfl

/-- A mismatch is placed at the same path. -/
lemma placed (h : Agree x y) {d e : Document} (m m' : Mark) (path : Path) :
    Agree (Decode.placed m ⟨d, path⟩ x) (Decode.placed m' ⟨e, path⟩ y) := by
  cases h with
  | limited y => exact .limited _
  | ok a => exact .ok a
  | @error f g h =>
    refine .error ?_
    rcases f with b | _ | _ | _ | ⟨r, _ | p⟩ <;> rcases g with c | _ | _ | _ | ⟨r', _ | q⟩ <;>
      simp_all [Failure.placed, Failure.unplaced]

/-- Agreement says that the outcomes are the same up to positions, unless there were too many
aliases. -/
lemma eq_or_mapError_eq (h : Agree x y) :
    x = .error .tooManyAliases ∨ x.mapError Failure.unplaced = y.mapError Failure.unplaced := by
  cases h with
  | limited y => exact .inl rfl
  | ok a => exact .inr rfl
  | error h => exact .inr (congrArg Except.error h)

end Agree

/-! ## Values and documents -/

mutual

/-- Two values differ in their positions only, and refer to shared anchors only. -/
def Node.Alike (shared : ℕ → Prop) : Node → Node → Prop
  | .scalar s _, .scalar t _ => s = t
  | .reference i _, .reference j _ => i = j ∧ shared i
  | .sequence t _ ns, .sequence u _ ms => t = u ∧ AlikeItems shared ns ms
  | .mapping t _ es, .mapping u _ fs => t = u ∧ AlikeEntries shared es fs
  | .void, .void => True
  | .cut, .cut => True
  | _, _ => False

def AlikeItems (shared : ℕ → Prop) : List Node → List Node → Prop
  | [], [] => True
  | n :: ns, m :: ms => n.Alike shared m ∧ AlikeItems shared ns ms
  | _, _ => False

def AlikeEntries (shared : ℕ → Prop) : List (Node × Node) → List (Node × Node) → Prop
  | [], [] => True
  | (k, v) :: es, (l, w) :: fs => k.Alike shared l ∧ v.Alike shared w ∧ AlikeEntries shared es fs
  | _, _ => False

end

/-- The first document beside the second: shared anchors stand for values that are alike, the texts
end alike, and the second document is not the smaller one. -/
structure Document.Beside (shared : ℕ → Prop) (d e : Document) : Prop where
  size_le : d.size ≤ e.size
  targets : ∀ i, shared i →
    Option.Rel (Node.Alike shared) (d.targets.lookup i) (e.targets.lookup i)
  breakage : d.breakage.map Breakage.unplaced = e.breakage.map Breakage.unplaced
  more : d.more = e.more

/-- A view of values that are alike by their kind. -/
inductive AlikeView (shared : ℕ → Prop) : Node → Node → Prop
  | scalar (s : Scalar) (m m' : Mark) : AlikeView shared (.scalar s m) (.scalar s m')
  | reference {i : ℕ} (h : shared i) (m m' : Mark) :
      AlikeView shared (.reference i m) (.reference i m')
  | sequence {ns ms : List Node} (h : AlikeItems shared ns ms) (t : Option TagText) (m m' : Mark) :
      AlikeView shared (.sequence t m ns) (.sequence t m' ms)
  | mapping {es fs : List (Node × Node)} (h : AlikeEntries shared es fs) (t : Option TagText)
      (m m' : Mark) : AlikeView shared (.mapping t m es) (.mapping t m' fs)
  | void : AlikeView shared .void .void
  | cut : AlikeView shared .cut .cut

section

variable {shared : ℕ → Prop} {n m : Node}

lemma Node.Alike.view (h : n.Alike shared m) : AlikeView shared n m := by
  rcases n with ⟨s, a⟩ | ⟨i, a⟩ | ⟨t, a, ns⟩ | ⟨t, a, es⟩ | _ | _ <;>
    rcases m with ⟨s', b⟩ | ⟨j, b⟩ | ⟨u, b, ms⟩ | ⟨u, b, fs⟩ | _ | _ <;>
    simp only [Node.Alike] at h
  · subst h
    exact .scalar s a b
  · obtain ⟨rfl, h⟩ := h
    exact .reference h a b
  · obtain ⟨rfl, h⟩ := h
    exact .sequence h t a b
  · obtain ⟨rfl, h⟩ := h
    exact .mapping h t a b
  · exact .void
  · exact .cut

lemma AlikeItems.forall₂ {ns ms : List Node} (h : AlikeItems shared ns ms) :
    List.Forall₂ (Node.Alike shared) ns ms := by
  induction ns generalizing ms with
  | nil =>
    cases ms with
    | nil => exact .nil
    | cons m ms => simp [AlikeItems] at h
  | cons n ns ih =>
    cases ms with
    | nil => simp [AlikeItems] at h
    | cons m ms =>
      simp only [AlikeItems] at h
      exact .cons h.1 (ih h.2)

/-- Entries whose keys and values are alike. -/
def AlikeEntry (shared : ℕ → Prop) (x y : Node × Node) : Prop :=
  x.1.Alike shared y.1 ∧ x.2.Alike shared y.2

lemma AlikeEntries.forall₂ {es fs : List (Node × Node)} (h : AlikeEntries shared es fs) :
    List.Forall₂ (AlikeEntry shared) es fs := by
  induction es generalizing fs with
  | nil =>
    cases fs with
    | nil => exact .nil
    | cons f fs => simp [AlikeEntries] at h
  | cons e es ih =>
    cases fs with
    | nil => simp [AlikeEntries] at h
    | cons f fs =>
      simp only [AlikeEntries] at h
      exact .cons ⟨h.1, h.2.1⟩ (ih h.2.2)

mutual

/-- Values that are alike end alike. -/
lemma Node.Alike.whole_eq {shared : ℕ → Prop} :
    ∀ {n m : Node}, n.Alike shared m → n.whole = m.whole
  | .scalar _ _, m, h => by cases h.view; rfl
  | .reference _ _, m, h => by cases h.view; rfl
  | .sequence _ _ ns, m, h => by
    cases h.view with
    | sequence hi => exact AlikeItems.whole_eq hi
  | .mapping _ _ es, m, h => by
    cases h.view with
    | mapping he => exact AlikeEntries.whole_eq he
  | .void, m, h => by cases h.view; rfl
  | .cut, m, h => by cases h.view; rfl

lemma AlikeItems.whole_eq {shared : ℕ → Prop} :
    ∀ {ns ms : List Node}, AlikeItems shared ns ms → wholeItems ns = wholeItems ms
  | [], [], _ => rfl
  | n :: ns, m :: ms, h => by
    rw [wholeItems, wholeItems, h.1.whole_eq, h.2.whole_eq]

lemma AlikeEntries.whole_eq {shared : ℕ → Prop} :
    ∀ {es fs : List (Node × Node)}, AlikeEntries shared es fs → wholeEntries es = wholeEntries fs
  | [], [], _ => rfl
  | (k, v) :: es, (l, w) :: fs, h => by
    rw [wholeEntries, wholeEntries, h.1.whole_eq, h.2.1.whole_eq, h.2.2.whole_eq]

end

end

/-! ### Values that are the same -/

mutual

/-- Two values are the same, positions included. -/
def Node.same : Node → Node → Bool
  | .scalar s a, .scalar t b => s = t ∧ a = b
  | .reference i a, .reference j b => i = j ∧ a = b
  | .sequence t a ns, .sequence u b ms => (t = u ∧ a = b) && sameItems ns ms
  | .mapping t a es, .mapping u b fs => (t = u ∧ a = b) && sameEntries es fs
  | .void, .void => true
  | .cut, .cut => true
  | _, _ => false

def sameItems : List Node → List Node → Bool
  | [], [] => true
  | n :: ns, m :: ms => n.same m && sameItems ns ms
  | _, _ => false

def sameEntries : List (Node × Node) → List (Node × Node) → Bool
  | [], [] => true
  | (k, v) :: es, (l, w) :: fs => k.same l && v.same w && sameEntries es fs
  | _, _ => false

end

mutual

lemma Node.same_iff : ∀ {n m : Node}, n.same m = true ↔ n = m
  | .scalar _ _, m => by cases m <;> simp [Node.same]
  | .reference _ _, m => by cases m <;> simp [Node.same]
  | .sequence _ _ ns, m => by cases m <;> simp [Node.same, and_assoc, @sameItems_iff ns]
  | .mapping _ _ es, m => by cases m <;> simp [Node.same, and_assoc, @sameEntries_iff es]
  | .void, m => by cases m <;> simp [Node.same]
  | .cut, m => by cases m <;> simp [Node.same]

lemma sameItems_iff : ∀ {ns ms : List Node}, sameItems ns ms = true ↔ ns = ms
  | [], ms => by cases ms <;> simp [sameItems]
  | n :: ns, ms => by
    cases ms <;> simp [sameItems, Node.same_iff (n := n), @sameItems_iff ns]

lemma sameEntries_iff : ∀ {es fs : List (Node × Node)}, sameEntries es fs = true ↔ es = fs
  | [], fs => by cases fs <;> simp [sameEntries]
  | (k, v) :: es, fs => by
    rcases fs with _ | ⟨⟨l, w⟩, fs⟩ <;>
      simp [sameEntries, Node.same_iff (n := k), Node.same_iff (n := v), @sameEntries_iff es]

end

instance : DecidableEq Node := fun _ _ => decidable_of_iff _ Node.same_iff

/-! ## Readers -/

namespace Decode

variable {shared : ℕ → Prop} {d e : Document} {α β : Type}

/-- A reader gives outcomes that agree for values that are alike. -/
def Blind (shared : ℕ → Prop) (d e : Document) (read : Decode α) : Prop :=
  ∀ path n m jumps, n.Alike shared m → Agree (read ⟨d, path⟩ n jumps) (read ⟨e, path⟩ m jumps)

lemma agree_cutOff (h : d.Beside shared e) (p q : Path) :
    Agree (cutOff ⟨d, p⟩ : Except Failure α) (cutOff ⟨e, q⟩) := by
  have hb := h.breakage
  unfold cutOff
  dsimp only
  rcases hd : d.breakage with _ | b <;> rcases he : e.breakage with _ | c <;>
    rw [hd, he] at hb <;> simp only [Option.map_none, Option.map_some, Option.some.injEq,
      reduceCtorEq] at hb
  · exact .refl _
  · exact .error (congrArg Failure.broken hb)

lemma agree_wrongType (h : d.Beside shared e) (path : Path) (expected : String) {n m : Node}
    (ha : n.Alike shared m) :
    Agree (wrongType ⟨d, path⟩ expected n : Except Failure α) (wrongType ⟨e, path⟩ expected m) := by
  cases ha.view with
  | cut => exact agree_cutOff h path path
  | _ => exact .refl _

/-- Two aliases lead to the values that they stand for, unless aliases were followed too often. -/
lemma agree_targets (h : d.size ≤ e.size) {i j : ℕ} {n m : Node}
    (hi : d.targets.lookup i = some n) (hj : e.targets.lookup j = some m) (path : Path) (jumps : ℕ)
    {f g : Node × ℕ → Except Failure α} (hfg : Agree (f (n, jumps + 1)) (g (m, jumps + 1))) :
    Agree (target ⟨d, path⟩ i jumps >>= f) (target ⟨e, path⟩ j jumps >>= g) := by
  unfold target
  dsimp only
  by_cases hl : d.size * aliasLimit < jumps + 1
  · rw [if_pos hl]
    exact .limited _
  · have hl' : ¬e.size * aliasLimit < jumps + 1 := by
      have := Nat.mul_le_mul_right aliasLimit h
      omega
    rw [if_neg hl, if_neg hl', hi, hj]
    exact hfg

/-- An alias to a shared anchor leads to values that are alike, or nowhere in both documents. -/
lemma agree_target (h : d.Beside shared e) {i : ℕ} (hi : shared i) (path : Path) (jumps : ℕ)
    {f g : Node × ℕ → Except Failure α}
    (hfg : ∀ n m, n.Alike shared m → Agree (f (n, jumps + 1)) (g (m, jumps + 1))) :
    Agree (target ⟨d, path⟩ i jumps >>= f) (target ⟨e, path⟩ i jumps >>= g) := by
  have ht := h.targets i hi
  rcases hd : d.targets.lookup i with _ | n <;> rcases he : e.targets.lookup i with _ | m <;>
    rw [hd, he] at ht <;> cases ht
  · by_cases hl : d.size * aliasLimit < jumps + 1
    · rw [target, if_pos hl]
      exact .limited _
    · have hl' : ¬e.size * aliasLimit < jumps + 1 := by
        have := Nat.mul_le_mul_right aliasLimit h.size_le
        omega
      rw [target, target, if_neg hl, if_neg hl', hd, he]
      exact .refl _
  · exact agree_targets h.size_le hd he path jumps (hfg n m ‹_›)

/-- Following aliases keeps a reader blind. -/
lemma blind_following (h : d.Beside shared e) {read : Direct α} (hr : Blind shared d e read) :
    Blind shared d e (following read) := by
  intro path n m jumps ha
  refine Agree.placed ?_ _ _ path
  cases ha.view with
  | reference hi a b =>
    exact agree_target h hi path jumps fun n m hnm => (hr path n m _ hnm).placed _ _ path
  | _ => exact hr path _ _ jumps ha

lemma blind_textAs (h : d.Beside shared e) (expected : String) :
    Blind shared d e (textAs expected) := by
  refine blind_following h fun path n m jumps ha => ?_
  cases ha.view with
  | scalar s a b => exact .refl _
  | _ => exact agree_wrongType h path expected ha

lemma blind_bare (h : d.Beside shared e) (tag : TagText) (expected : String)
    (read : String → Option α) : Blind shared d e (bare tag expected read) := by
  refine blind_following h fun path n m jumps ha => ?_
  cases ha.view with
  | scalar s a b =>
    dsimp only
    split
    · exact .refl _
    · exact agree_wrongType h path expected ha
  | _ => exact agree_wrongType h path expected ha

lemma agree_skip (h : d.Beside shared e) {p q : Path} {n m : Node} (hw : n.whole = m.whole) :
    Agree (skip ⟨d, p⟩ n) (skip ⟨e, q⟩ m) := by
  unfold skip
  rw [hw]
  split
  · exact .refl _
  · exact agree_cutOff h p q

/-- A null or a value, where it stands. -/
lemma agree_optional {read : Decode α} (hr : Blind shared d e read)
    {n m : Node} (ha : n.Alike shared m) (hn : ∀ i a, n ≠ .reference i a) (path : Path)
    (jumps : ℕ) : Agree (optional read ⟨d, path⟩ n jumps) (optional read ⟨e, path⟩ m jumps) := by
  cases ha.view with
  | reference hi a b => exact absurd rfl (hn _ a)
  | void => exact .refl _
  | scalar s a b =>
    unfold optional
    dsimp only
    split_ifs
    · exact (hr path _ _ jumps ha).map _
    · exact .refl _
    · exact .refl _
    · exact .refl _
    · exact (hr path _ _ jumps ha).map _
  | _ => exact (hr path _ _ jumps ha).map _

lemma blind_optional (h : d.Beside shared e) {read : Decode α} (hr : Blind shared d e read) :
    Blind shared d e (optional read) := by
  intro path n m jumps ha
  cases ha.view with
  | reference hi a b =>
    refine agree_target h hi path jumps fun n m hnm => ?_
    cases hnm.view with
    | reference hi a b => exact (hr path _ _ _ hnm).map _
    | _ => exact agree_optional hr hnm (by simp) path _
  | _ => exact agree_optional hr ha (by simp) path jumps

/-- Items that are alike are read one after the other. -/
lemma agree_items {read : Decode α} (hr : Blind shared d e read)
    (path : Path) {ns ms : List Node} (ha : List.Forall₂ (Node.Alike shared) ns ms)
    (index jumps : ℕ) :
    Agree (items read ⟨d, path⟩ index jumps ns) (items read ⟨e, path⟩ index jumps ms) := by
  induction ha generalizing index jumps with
  | nil => exact .refl _
  | cons hn _ ih =>
    refine (hr (.item path index) _ _ jumps hn).bind fun x _ => ?_
    exact (ih (index + 1) x.2).bind fun y _ => .refl _

lemma blind_list (h : d.Beside shared e) {read : Decode α} (hr : Blind shared d e read) :
    Blind shared d e (list read) := by
  refine blind_following h fun path n m jumps ha => ?_
  cases ha.view with
  | sequence hi t a b => exact agree_items hr path hi.forall₂ 0 jumps
  | void => exact .refl _
  | scalar s a b =>
    dsimp only
    split
    · exact .refl _
    · exact agree_wrongType h path _ ha
  | _ => exact agree_wrongType h path _ ha

/-! ### Mappings -/

/-- What a mapping does with an entry that stands at the same place in both documents, where the
second one may have got further by some change of the partial results. -/
def AgreeEntry {π : Type} (key : Decode String)
    (add : Scope → String → π → Node → ℕ → Except Failure (π × ℕ)) (d e : Document) (path : Path)
    (change : π → π) (x y : Node × Node) : Prop :=
  (∀ jumps, Agree (key ⟨d, path⟩ x.1 jumps) (key ⟨e, path⟩ y.1 jumps)) ∧
    ∀ name jumps jumps', key ⟨d, path⟩ x.1 jumps = .ok (name, jumps') → ∀ p,
      Agree ((add (entryScope ⟨d, path⟩ x.1) name p x.2 jumps').map (Prod.map change id))
        (add (entryScope ⟨e, path⟩ y.1) name (change p) y.2 jumps')

lemma map_bind {β γ : Type} (x : Except Failure α) (f : α → Except Failure β) (c : β → γ) :
    (x >>= f).map c = x >>= fun a => (f a).map c := by
  cases x <;> rfl

/-- Entries that agree are read into partial results that agree up to the change. -/
lemma agree_entries {π : Type} {key : Decode String}
    {add : Scope → String → π → Node → ℕ → Except Failure (π × ℕ)} {path : Path} {change : π → π}
    {es fs : List (Node × Node)} (hes : List.Forall₂ (AgreeEntry key add d e path change) es fs)
    (p : π) (jumps : ℕ) :
    Agree ((entries key add ⟨d, path⟩ p jumps es).map (Prod.map change id))
      (entries key add ⟨e, path⟩ (change p) jumps fs) := by
  induction hes generalizing p jumps with
  | nil => exact .ok _
  | @cons x y es fs hx _ ih =>
    rw [entries, entries, map_bind]
    refine (hx.1 jumps).bind fun a ha => ?_
    rw [map_bind]
    exact (hx.2 _ _ _ ha p).bind_map fun b _ => ih b.1 b.2

/-- The values of keys that are alike have one path. -/
lemma exists_entryScope {k l : Node} (path : Path) (ha : k.Alike shared l) :
    ∃ q, entryScope ⟨d, path⟩ k = ⟨d, q⟩ ∧ entryScope ⟨e, path⟩ l = ⟨e, q⟩ := by
  cases ha.view <;> exact ⟨_, rfl, rfl⟩

/-- Entries that are alike agree if each value is read alike. -/
lemma agreeEntry_of_alike {π : Type} {key : Decode String} (hk : Blind shared d e key)
    {add : Scope → String → π → Node → ℕ → Except Failure (π × ℕ)}
    (hadd : ∀ path name p n m jumps, n.Alike shared m →
      Agree (add ⟨d, path⟩ name p n jumps) (add ⟨e, path⟩ name p m jumps))
    {x y : Node × Node} (ha : AlikeEntry shared x y) (path : Path) :
    AgreeEntry key add d e path id x y := by
  refine ⟨fun jumps => hk path _ _ jumps ha.1, fun name jumps jumps' _ p => ?_⟩
  obtain ⟨q, hd, he⟩ := exists_entryScope path ha.1
  rw [hd, he, Prod.map_id, Except.map_id]
  exact hadd q name p _ _ _ ha.2

lemma blind_mapping (h : d.Beside shared e) {π : Type} {key : Decode String}
    (hk : Blind shared d e key)
    {add : Scope → String → π → Node → ℕ → Except Failure (π × ℕ)}
    (hadd : ∀ path name p n m jumps, n.Alike shared m →
      Agree (add ⟨d, path⟩ name p n jumps) (add ⟨e, path⟩ name p m jumps))
    (expected : String) (blank : π) (finish : π → Except Mismatch α) :
    Blind shared d e (mapping expected key add blank finish) := by
  refine blind_following h fun path n m jumps ha => ?_
  cases ha.view with
  | mapping hes t a b =>
    have hes' : List.Forall₂ (AgreeEntry key add d e path id) _ _ :=
      hes.forall₂.imp fun x y hxy => agreeEntry_of_alike hk hadd hxy path
    have hf := agree_entries hes' blank jumps
    rw [Prod.map_id, Except.map_id] at hf
    exact hf.bind fun x _ => .refl _
  | void => exact .refl _
  | scalar s a b =>
    dsimp only
    split
    · exact .refl _
    · exact agree_wrongType h path _ ha
  | _ => exact agree_wrongType h path _ ha

lemma blind_table (h : d.Beside shared e) : Blind shared d e table := by
  refine blind_mapping h (blind_textAs h _) (fun path key t n m jumps ha => ?_) _ _ _
  exact (blind_textAs h _ path n m jumps ha).bind fun x _ => .refl _

/-! ### Records -/

section

variable {π : Type}

/-- What a record does with an entry. -/
def addField (fields : List (Field Decode π)) (scope : Scope) (key : String) (p : π) (v : Node)
    (jumps : ℕ) : Except Failure (π × ℕ) :=
  match Field.find? fields key with
  | none => (skip scope v).map fun _ => (p, jumps)
  | some field =>
    if field.seen p then .error (.mismatch (.duplicateField key) none)
    else do
      let (add, jumps) ← field.read scope v jumps
      .ok (add p, jumps)

lemma record_eq (name : String) (fields : List (Field Decode π)) (blank : π)
    (finish : π → Except String α) :
    record name fields blank finish =
      mapping s!"struct {name}" (textAs "field identifier") (addField fields) blank fun p =>
        (finish p).mapError .missingField := rfl

lemma addField_none {fields : List (Field Decode π)} {key : String}
    (hf : Field.find? fields key = none) (scope : Scope) (p : π) (v : Node) (jumps : ℕ) :
    addField fields scope key p v jumps = (skip scope v).map fun _ => (p, jumps) := by
  rw [addField, hf]

lemma addField_some {fields : List (Field Decode π)} {key : String} {f : Field Decode π}
    (hf : Field.find? fields key = some f) (scope : Scope) (p : π) (v : Node) (jumps : ℕ) :
    addField fields scope key p v jumps =
      if f.seen p then .error (.mismatch (.duplicateField key) none)
      else (f.read scope v jumps).map fun x => (x.1 p, x.2) := by
  rw [addField, hf]
  dsimp only
  rcases f.read scope v jumps <;> rfl

/-- A record of blind fields is blind. -/
lemma blind_record (h : d.Beside shared e) {fields : List (Field Decode π)}
    (hf : ∀ f ∈ fields, Blind shared d e f.read) (name : String) (blank : π)
    (finish : π → Except String α) : Blind shared d e (record name fields blank finish) := by
  rw [record_eq]
  refine blind_mapping h (blind_textAs h _) (fun path key p n m jumps ha => ?_) _ _ _
  rcases hk : Field.find? fields key with _ | f
  · rw [addField_none hk, addField_none hk]
    exact (agree_skip h ha.whole_eq).map _
  · rw [addField_some hk, addField_some hk]
    split
    · exact .refl _
    · exact (hf f (Field.mem_of_find? hk).1 path n m jumps ha).map _

end

/-! ### The other readers -/

lemma blind_map {read : Decode α} (hr : Blind shared d e read) (f : α → β) :
    Blind shared d e (Format.map f read) :=
  fun path n m jumps ha => (hr path n m jumps ha).map _

lemma blind_unitAfterTag (h : d.Beside shared e) : Blind shared d e unitAfterTag := by
  refine blind_following h fun path n m jumps ha => ?_
  cases ha.view with
  | scalar s a b => exact .refl _
  | void => exact .refl _
  | _ => exact agree_wrongType h path _ ha

/-- A word that names a choice, where it stands. -/
lemma agree_choice (h : d.Beside shared e) (choices : List (String × α)) {n m : Node}
    (ha : n.Alike shared m) (hn : ∀ i a, n ≠ .reference i a) (path : Path) (jumps : ℕ) :
    Agree (choice choices ⟨d, path⟩ n jumps) (choice choices ⟨e, path⟩ m jumps) := by
  have htag : tagOf n = tagOf m := by cases ha.view <;> rfl
  have hunit := blind_unitAfterTag h path n m jumps ha
  rcases ho : ownTag? (tagOf n) with _ | word
  · have ho' := htag ▸ ho
    cases ha.view with
    | reference hi a b => exact absurd rfl (hn _ a)
    | scalar s a b =>
      simp only [choice, ho, ho']
      exact (Agree.refl _).placed a b path
    | _ =>
      simp only [choice, ho, ho']
      exact (agree_wrongType h path _ ha).placed _ _ path
  · have ho' := htag ▸ ho
    cases ha.view with
    | reference hi a b => exact absurd rfl (hn _ a)
    | _ =>
      simp only [choice, ho, ho']
      exact (Agree.refl _).bind fun x _ => hunit.bind fun u _ => .refl _

lemma blind_choice (h : d.Beside shared e) (choices : List (String × α)) :
    Blind shared d e (choice choices) := by
  intro path n m jumps ha
  cases ha.view with
  | reference hi a b =>
    refine Agree.placed (agree_target h hi path jumps fun n m hnm => ?_) a b path
    cases hnm.view with
    | reference hi a b => exact (agree_wrongType h path _ hnm).placed _ _ path
    | _ => exact agree_choice h choices hnm (by simp) path (jumps + 1)
  | _ => exact agree_choice h choices ha (by simp) path jumps

end Decode

/-! ## Documents as a whole -/

namespace Document

variable {shared : ℕ → Prop} {d e : Document} {α : Type}

lemma Beside.agree_checkEnd (h : d.Beside shared e) : Agree d.checkEnd e.checkEnd := by
  have hb := h.breakage
  unfold checkEnd
  rcases hd : d.breakage with _ | b <;> rcases he : e.breakage with _ | c <;>
    rw [hd, he] at hb <;> simp only [Option.map_none, Option.map_some, Option.some.injEq,
      reduceCtorEq] at hb
  · rw [h.more]
    exact .refl _
  · exact .error (congrArg Failure.broken hb)

/-- Whether a failure is that of a check of the whole value, which comes last, does not depend on
positions. -/
lemma rejected_iff {f g : Failure} (h : f.unplaced = g.unplaced) (r : Rejection) :
    f = .mismatch (.rejected r) none ↔ g = .mismatch (.rejected r) none := by
  rcases f with b | _ | _ | _ | ⟨r', _ | q⟩ <;> rcases g with c | _ | _ | _ | ⟨r'', _ | q'⟩ <;>
    simp_all [Failure.unplaced]

/-- What is read from documents agrees if what is read from their values does. -/
lemma Beside.agree_read (h : d.Beside shared e) {read : Decode α}
    (hr : Agree (read ⟨d, .root⟩ d.root 0) (read ⟨e, .root⟩ e.root 0)) :
    Agree (d.read read) (e.read read) := by
  have hend := h.agree_checkEnd
  unfold Document.read
  generalize read ⟨d, .root⟩ d.root 0 = x at hr ⊢
  generalize read ⟨e, .root⟩ e.root 0 = y at hr ⊢
  cases hr with
  | limited y => exact .limited _
  | ok a => exact hend.bind fun _ _ => .refl _
  | @error f g hfg =>
    split
    · rename_i r hx
      cases hx
      cases (rejected_iff hfg r).1 rfl
      exact hend.bind fun _ _ => .refl _
    · rename_i hf hx
      cases hx
      split
      · rename_i r hy
        cases hy
        exact absurd ((rejected_iff hfg r).2 rfl) (hf r)
      · rename_i hy
        cases hy
        exact .error hfg
      · rename_i hy
        cases hy
    · rename_i hx
      cases hx

end Document

end BenchRoster.Yaml
