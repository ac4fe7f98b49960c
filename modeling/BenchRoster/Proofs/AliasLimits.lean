/-
# How many aliases are followed

A reader follows an alias at each value that is one, and counts them over the whole document.  As
soon as they are more than a hundred for each event of the document, it gives up.

* `Decode.Spends` says how many aliases the reading of a value follows, whatever has been followed
  before, and what it gives if that is allowed;
* `Decode.spends_reference` up to `Decode.spends_record` add these numbers up along the value;
* `Decode.Spends.read_eq` says what this means for a whole document;
* `Crowded.read_document` is about a configuration with any number of aliases.
-/
import BenchRoster.Config.Reading
import BenchRoster.Proofs.Positions
import Mathlib

namespace BenchRoster.Yaml

/-- How many aliases may be followed in a document. -/
def Document.limit (d : Document) : ℕ := d.size * Decode.aliasLimit

namespace Decode

variable {α β π : Type} {d : Document}

/-- The outcome of reading a value after so many aliases, if reading it follows `k` more. -/
def spent (d : Document) (k : ℕ) (x : α) (jumps : ℕ) : Except Failure (α × ℕ) :=
  if jumps + k ≤ d.limit then .ok (x, jumps + k) else .error .tooManyAliases

lemma spent_of_le {k jumps : ℕ} {x : α} (h : jumps + k ≤ d.limit) :
    spent d k x jumps = .ok (x, jumps + k) :=
  if_pos h

lemma spent_of_lt {k jumps : ℕ} {x : α} (h : d.limit < jumps + k) :
    spent d k x jumps = .error .tooManyAliases :=
  if_neg (Nat.not_le.2 h)

lemma spent_zero {jumps : ℕ} (x : α) (h : jumps ≤ d.limit) : spent d 0 x jumps = .ok (x, jumps) :=
  spent_of_le h

/-- What is followed first and what is followed then add up. -/
lemma spent_bind {k l jumps : ℕ} {x : α} {y : β} {f : α × ℕ → Except Failure (β × ℕ)}
    (hf : jumps + k ≤ d.limit → f (x, jumps + k) = spent d l y (jumps + k)) :
    (spent d k x jumps >>= f) = spent d (k + l) y jumps := by
  rcases Nat.lt_or_ge d.limit (jumps + k) with h | h
  · rw [spent_of_lt h, spent_of_lt (Nat.lt_of_lt_of_le h (by omega))]
    rfl
  · rw [spent_of_le h, spent, ← Nat.add_assoc]
    exact hf h

lemma spent_map {k jumps : ℕ} {x : α} (f : α → β) :
    (spent d k x jumps).map (fun y => (f y.1, y.2)) = spent d k (f x) jumps := by
  unfold spent
  split <;> rfl

lemma spent_bind_ok {k jumps : ℕ} {x : α} (f : α → β) :
    (spent d k x jumps >>= fun y => .ok (f y.1, y.2)) = spent d k (f x) jumps := by
  unfold spent
  split <;> rfl

lemma placed_spent {k jumps : ℕ} {x : α} (m : Mark) (scope : Scope) :
    placed m scope (spent d k x jumps) = spent d k x jumps := by
  unfold spent
  split <;> rfl

/-- Reading a value follows `k` aliases and gives `x`, as long as they are not more, with those that
were followed before, than the document allows. -/
def Spends (d : Document) (read : Scope → Node → ℕ → Except Failure (α × ℕ)) (n : Node) (k : ℕ)
    (x : α) : Prop :=
  ∀ path jumps, jumps ≤ d.limit → read ⟨d, path⟩ n jumps = spent d k x jumps

/-! ## The readers -/

lemma Spends.map {read : Decode α} {n : Node} {k : ℕ} {x : α} (h : Spends d read n k x)
    (f : α → β) : Spends d (Format.map f read : Decode β) n k (f x) := fun path jumps hj => by
  have hm : (Format.map f read : Decode β) ⟨d, path⟩ n jumps =
      (read ⟨d, path⟩ n jumps).map fun y => (f y.1, y.2) := rfl
  rw [hm, h path jumps hj, spent_map]

lemma following_eq {read : Direct α} {n : Node} (hn : ∀ id m, n ≠ .reference id m) (scope : Scope)
    (jumps : ℕ) :
    following read scope n jumps = placed (markOf n) scope (read scope n jumps) := by
  cases n with
  | reference id m => exact absurd rfl (hn id m)
  | _ => rfl

/-- A value that is no alias. -/
lemma spends_following {read : Direct α} {n : Node} {k : ℕ} {x : α} (h : Spends d read n k x)
    (hn : ∀ id m, n ≠ .reference id m) : Spends d (following read) n k x := fun path jumps hj => by
  rw [following_eq hn, h path jumps hj, placed_spent]

/-- A reader that follows an alias where it begins to read. -/
def SeesThrough (read : Decode α) : Prop := ∃ direct : Direct α, read = following direct

lemma seesThrough_text : SeesThrough text := by
  unfold text textAs
  exact ⟨_, rfl⟩

lemma seesThrough_record (name : String) (fields : List (Field Decode π)) (blank : π)
    (finish : π → Except String α) : SeesThrough (record name fields blank finish) := by
  unfold record mapping
  exact ⟨_, rfl⟩

/-- An alias, which is followed once to the value that it stands for. -/
lemma spends_reference {read : Decode α} (hr : SeesThrough read) {id : ℕ} {n : Node} {k : ℕ} {x : α}
    (m : Mark) (h : Spends d read n k x) (hn : ∀ id m, n ≠ .reference id m)
    (hid : d.targets.lookup id = some n) : Spends d read (.reference id m) (1 + k) x := by
  obtain ⟨direct, rfl⟩ := hr
  intro path jumps hj
  have ht : target ⟨d, path⟩ id jumps = spent d 1 n jumps := by
    simp only [target, spent, hid, ← Document.limit.eq_1 d, ← Nat.not_le, ite_not]
  have hf : following direct ⟨d, path⟩ (.reference id m) jumps =
      placed m ⟨d, path⟩ (target ⟨d, path⟩ id jumps >>= fun y =>
        placed (markOf y.1) ⟨d, path⟩ (direct ⟨d, path⟩ y.1 y.2)) := rfl
  rw [hf, ht, spent_bind (l := k) (y := x), placed_spent]
  intro hj'
  rw [← following_eq hn, h path _ hj']

lemma spends_text (s : Scalar) (m : Mark) : Spends d text (.scalar s m) 0 s.text := by
  unfold text textAs
  exact spends_following (fun _ _ hj => (spent_zero _ hj).symm) (by simp)

lemma spends_items {read : Decode α} {ns : List Node} {xs : List (ℕ × α)}
    (h : List.Forall₂ (fun n x => Spends d read n x.1 x.2) ns xs) (path : Path) (index jumps : ℕ)
    (hj : jumps ≤ d.limit) :
    items read ⟨d, path⟩ index jumps ns = spent d (xs.map (·.1)).sum (xs.map (·.2)) jumps := by
  induction h generalizing index jumps with
  | nil => exact (spent_zero _ hj).symm
  | @cons n x ns xs hn _ ih =>
    rw [items, hn _ jumps hj, List.map_cons, List.sum_cons, List.map_cons]
    refine spent_bind fun hx => ?_
    dsimp only
    rw [ih _ _ hx]
    exact spent_bind_ok (x.2 :: ·)

/-- A sequence follows the aliases of its items. -/
lemma spends_list {read : Decode α} {tag : Option TagText} {m : Mark} {ns : List Node}
    {xs : List (ℕ × α)} (h : List.Forall₂ (fun n x => Spends d read n x.1 x.2) ns xs) :
    Spends d (list read) (.sequence tag m ns) (xs.map (·.1)).sum (xs.map (·.2)) :=
  spends_following (fun path jumps hj => spends_items h path 0 jumps hj) (by simp)

lemma Spends.optional {read : Decode α} {tag : Option TagText} {m : Mark} {ns : List Node} {k : ℕ}
    {x : α} (h : Spends d read (.sequence tag m ns) k x) :
    Spends d (optional read) (.sequence tag m ns) k (some x) := fun path jumps hj => by
  have ho : Decode.optional read ⟨d, path⟩ (.sequence tag m ns) jumps =
      (read ⟨d, path⟩ (.sequence tag m ns) jumps).map fun y => (some y.1, y.2) := rfl
  rw [ho, h path jumps hj, spent_map]

/-! ## Records -/

/-- The entries of a record follow `k` aliases and lead from one partial record to another. -/
inductive SpendsEntries (d : Document) (fields : List (Field Decode π)) :
    π → List (Node × Node) → ℕ → π → Prop
  | nil (p : π) : SpendsEntries d fields p [] 0 p
  | cons {p q : π} {s : Scalar} {m : Mark} {v : Node} {es : List (Node × Node)} {k l : ℕ}
      {f : Field Decode π} {g : π → π} (hf : Field.find? fields s.text = some f)
      (hp : f.seen p = false) (hv : Spends d f.read v k g)
      (h : SpendsEntries d fields (g p) es l q) :
      SpendsEntries d fields p ((.scalar s m, v) :: es) (k + l) q

lemma SpendsEntries.entries_eq {fields : List (Field Decode π)} {p q : π}
    {es : List (Node × Node)} {k : ℕ} (h : SpendsEntries d fields p es k q) (path : Path)
    (jumps : ℕ) (hj : jumps ≤ d.limit) :
    entries (textAs "field identifier") (addField fields) ⟨d, path⟩ p jumps es =
      spent d k q jumps := by
  induction h generalizing jumps with
  | nil p => exact (spent_zero p hj).symm
  | @cons p q s m v es k l f g hf hp hv _ ih =>
    have hk : textAs "field identifier" ⟨d, path⟩ (.scalar s m) jumps = .ok (s.text, jumps) := rfl
    have he : entryScope ⟨d, path⟩ (.scalar s m) = ⟨d, .entry path s.text⟩ := rfl
    rw [entries, hk, he]
    change (addField fields _ s.text p v jumps >>= _) = _
    rw [addField_some hf, hp, hv _ jumps hj]
    rw [if_neg Bool.false_ne_true, spent_map (fun h : π → π => h p)]
    exact spent_bind fun hx => ih _ hx

/-- A record follows the aliases of its entries. -/
lemma spends_record {name : String} {fields : List (Field Decode π)} {blank q : π}
    {finish : π → Except String α} {tag : Option TagText} {m : Mark} {es : List (Node × Node)}
    {k : ℕ} {x : α} (h : SpendsEntries d fields blank es k q) (hx : finish q = .ok x) :
    Spends d (record name fields blank finish) (.mapping tag m es) k x := by
  rw [record_eq]
  refine spends_following (fun path jumps hj => ?_) (by simp)
  dsimp only
  rw [h.entries_eq path jumps hj, spent_bind (l := 0) (y := x) fun hq => ?_, Nat.add_zero]
  dsimp only
  rw [hx, spent_zero x hq]
  rfl

/-! ## Documents -/

/-- A whole document is read if it has not too many aliases for its size. -/
lemma Spends.read_eq {read : Decode α} {k : ℕ} {x : α} (h : Spends d read d.root k x)
    (hb : d.breakage = none) (hm : d.more = false) :
    d.read read = if k ≤ d.limit then .ok x else .error .tooManyAliases := by
  have hr := h .root 0 (Nat.zero_le _)
  have hend : d.checkEnd = .ok () := by
    rw [Document.checkEnd, hb, hm]
    rfl
  rw [spent, Nat.zero_add] at hr
  rw [Document.read, hr, hend]
  split_ifs <;> rfl

end Decode

end BenchRoster.Yaml

namespace BenchRoster

open Yaml
open Yaml.Decode (Spends SpendsEntries spends_list spends_record spends_reference spends_text)

/-! ## A configuration with many aliases -/

namespace Crowded

/-- A configuration that repeats an argument `a` times and the backend `b` times, with or without
an empty section before it. -/
def text (sectioned : Bool) (a b : ℕ) : String :=
  (if sectioned then "runtime: \x7b\x7d\n" else "") ++
    "backends: [&b \x7bname: a, locator: b, args: [&s x" ++ String.join (List.replicate a ",*s") ++
    "]\x7d" ++ String.join (List.replicate b ",*b") ++ "]\n"

/-- A column of the line of the backends. -/
def column (sectioned : Bool) (n : ℕ) : Mark := if sectioned then ⟨12 + n, 1, n⟩ else ⟨n, 0, n⟩

def word (sectioned : Bool) (s : String) (n : ℕ) : Node :=
  .scalar ⟨s, .plain, none⟩ (column sectioned n)

/-- So many aliases, from a column on. -/
def aliases (sectioned : Bool) (id count n : ℕ) : List Node :=
  (List.range count).map fun k => .reference id (column sectioned (n + 3 * k))

def argument (sectioned : Bool) : Node := word sectioned "x" 43

def arguments (sectioned : Bool) (a : ℕ) : Node :=
  .sequence none (column sectioned 42) (argument sectioned :: aliases sectioned 1 a 48)

def backend (sectioned : Bool) (a : ℕ) : Node :=
  .mapping none (column sectioned 11) [
    (word sectioned "name" 15, word sectioned "a" 21),
    (word sectioned "locator" 24, word sectioned "b" 33),
    (word sectioned "args" 36, arguments sectioned a)]

def backends (sectioned : Bool) (a b : ℕ) : Node :=
  .sequence none (column sectioned 10)
    (backend sectioned a :: aliases sectioned 0 b (50 + 3 * a))

/-- The document of this configuration. -/
def document (sectioned : Bool) (a b : ℕ) : Document where
  root := .mapping none .start
    ((if sectioned then [(.scalar ⟨"runtime", .plain, none⟩ .start, .mapping none ⟨9, 0, 9⟩ [])]
      else []) ++
    [(word sectioned "backends" 0, backends sectioned a b)])
  targets := [(1, argument sectioned), (0, backend sectioned a)]
  breakage := none
  size := 15 + a + b + if sectioned then 3 else 0
  more := false

example : (Document.ofString (text true 2 3)).root.same (document true 2 3).root = true ∧
    (Document.ofString (text true 2 3)).size = (document true 2 3).size := by
  decide +kernel

variable {sectioned : Bool} {a b : ℕ}

/-- A list of a value and of aliases that stand for it. -/
lemma spends_repeated {α : Type} {d : Document} {read : Decode α} (hr : Decode.SeesThrough read)
    {n : Node} {k : ℕ} {x : α} (h : Spends d read n k x) (hn : ∀ id m, n ≠ .reference id m) {id : ℕ}
    (hid : d.targets.lookup id = some n) (m : Mark) (count col : ℕ) :
    Spends d (Decode.list read) (.sequence none m (n :: aliases sectioned id count col))
      (k + count * (1 + k)) (List.replicate (count + 1) x) := by
  have hf : List.Forall₂ (fun n x => Spends d read n x.1 x.2)
      (n :: aliases sectioned id count col) ((k, x) :: List.replicate count (1 + k, x)) := by
    refine .cons h (List.forall₂_iff_get.2 ⟨by simp [aliases], fun i hi hc => ?_⟩)
    simpa [aliases] using spends_reference hr _ h hn hid
  have hl : Spends d (Decode.list read) (.sequence none m _) _ _ := spends_list hf
  simpa [List.replicate_succ] using hl

/-- What the backend is read as. -/
def draft (a : ℕ) : BackendDraft :=
  { name := "a", locator := "b", args := List.replicate (a + 1) "x" }

lemma spends_backend :
    Spends (document sectioned a b) BackendDraft.read (backend sectioned a) a (draft a) := by
  have hargs : Spends (document sectioned a b) (Decode.list Decode.text) (arguments sectioned a) a
      (List.replicate (a + 1) "x") := by
    have h : Spends (document sectioned a b) (Decode.list Decode.text) (arguments sectioned a)
        (0 + a * (1 + 0)) (List.replicate (a + 1) "x") :=
      spends_repeated Decode.seesThrough_text (spends_text _ _) (by simp) rfl _ _ _
    rwa [Nat.zero_add, Nat.mul_one] at h
  have he : SpendsEntries (document sectioned a b) BackendDraft.fields {} [
      (word sectioned "name" 15, word sectioned "a" 21),
      (word sectioned "locator" 24, word sectioned "b" 33),
      (word sectioned "args" 36, arguments sectioned a)] (0 + (0 + (a + 0)))
      { name := some "a", locator := some "b", args := some (List.replicate (a + 1) "x") } :=
    .cons rfl rfl ((spends_text _ _).map _)
      (.cons rfl rfl ((spends_text _ _).map _) (.cons rfl rfl (hargs.map _) (.nil _)))
  rw [Nat.zero_add, Nat.zero_add, Nat.add_zero] at he
  exact spends_record he rfl

/-- The aliases of the whole configuration: those of the backend, and for each time that it is
repeated one more than these. -/
def aliasCount (a b : ℕ) : ℕ := a + b * (1 + a)

lemma spends_backends :
    Spends (document sectioned a b) (Decode.optional (Decode.list BackendDraft.read))
      (backends sectioned a b) (aliasCount a b) (some (List.replicate (b + 1) (draft a))) :=
  (spends_repeated (Decode.seesThrough_record _ _ _ _) spends_backend (by simp [backend]) rfl
    _ _ _).optional

lemma spends_document :
    Spends (document sectioned a b) Draft.read (document sectioned a b).root (aliasCount a b)
      { backends := some (List.replicate (b + 1) (draft a)) } := by
  have hbackends : ∀ p : Draft.Partial, p.backends = none →
      SpendsEntries (document sectioned a b) Draft.fields p
        [(word sectioned "backends" 0, backends sectioned a b)] (aliasCount a b + 0)
        { p with backends := some (some (List.replicate (b + 1) (draft a))) } := fun p hp =>
    .cons rfl (congrArg Option.isSome hp) (spends_backends.map _) (.nil _)
  rw [Nat.add_zero] at hbackends
  cases sectioned with
  | false => exact spends_record (hbackends {} rfl) rfl
  | true =>
    have hruntime : Spends (document true a b) Timing.read (.mapping none ⟨9, 0, 9⟩ []) 0 {} :=
      spends_record (.nil _) rfl
    have he : SpendsEntries (document true a b) Draft.fields {} [
        (.scalar ⟨"runtime", .plain, none⟩ .start, .mapping none ⟨9, 0, 9⟩ []),
        (word true "backends" 0, backends true a b)] (0 + aliasCount a b)
        { timing := some {}, backends := some (some (List.replicate (b + 1) (draft a))) } :=
      .cons rfl rfl (hruntime.map _) (hbackends _ rfl)
    rw [Nat.zero_add] at he
    exact spends_record he rfl

/-- The configuration is read unless it has too many aliases for its size. -/
lemma read_document :
    (document sectioned a b).read Draft.read =
      if aliasCount a b ≤ (document sectioned a b).limit then
        .ok { backends := some (List.replicate (b + 1) (draft a)) }
      else .error .tooManyAliases :=
  spends_document.read_eq rfl rfl

end Crowded

end BenchRoster
