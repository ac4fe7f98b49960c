/-
# Chains of chains

A chain tries its members from left to right, and a member may be a chain itself.  Which resolvers
at the leaves are tried, and whether the search ends with a handle, with a panic or with neither,
does not depend on how the leaves are grouped.  The error of a search without result does: a chain
without members forgets the errors before it, if it is the last thing that is asked.

* `Resolver.AllFail` says that some resolvers are tried in vain, and `Resolver.Ends` how a search
  from left to right ends, and with which attempts;
* `Resolver.ends_search` says that every search ends in this way, and `Resolver.Ends.log_eq` what
  the resolvers that are tried write down on the way;
* `ResolverTree.EndsInLeaf` and `ResolverTree.EndsInEmpty` are about the last thing that a tree
  asks;
* `ResolverTree.resolver_through_leaves` is the main statement.
-/
import BenchRoster.Proofs.Search
import Mathlib.Data.List.Induction

namespace BenchRoster

namespace Action

variable {τ ε α : Type} {x y : Action τ ε α} {w : World τ}

/-- Actions that are the same but for their errors are the same where the first does not fail. -/
lemma eq_of_forgetError_eq (h : x.forgetError w = y.forgetError w)
    (hx : ∀ e v, x w ≠ (.failed e, v)) : x w = y w := by
  rcases hw : x w with ⟨a | e | p, v⟩
  · rw [forgetError_done hw] at h
    rcases hy : y w with ⟨b | d | q, u⟩ <;> simp_all [forgetError, mapError, Outcome.mapError]
  · exact absurd hw (hx e v)
  · rw [forgetError_panicked hw] at h
    rcases hy : y w with ⟨b | d | q, u⟩ <;> simp_all [forgetError, mapError, Outcome.mapError]

end Action

namespace Resolver

variable {τ : Type} {l : Locator} {rs qs : List (Resolver τ)} {w u v : World τ}

/-! ## Attempts -/

/-- Some resolvers are tried one after the other, each in the world that the one before it has left,
and none of them finds a handle or panics. -/
inductive AllFail (l : Locator) : List (Resolver τ) → World τ → World τ → Prop
  | nil (w : World τ) : AllFail l [] w w
  | cons {r : Resolver τ} {rs : List (Resolver τ)} {w u v : World τ} {e : ResolveError}
      (h : r l w = (.failed e, u)) (hs : AllFail l rs u v) : AllFail l (r :: rs) w v

lemma AllFail.append (h : AllFail l rs w u) (k : AllFail l qs u v) : AllFail l (rs ++ qs) w v := by
  induction h with
  | nil w => exact k
  | cons h _ ih => exact .cons h (ih k)

/-- How a search through resolvers ends, and which of them are tried: they come from left to right,
up to and with the first that finds a handle or panics, and all of them if none does. -/
inductive Ends (l : Locator) (rs : List (Resolver τ)) (w : World τ) :
    List (Resolver τ) → Outcome Unit (Handle τ) → World τ → Prop
  | found {before after : List (Resolver τ)} {r : Resolver τ} {u v : World τ} {h : Handle τ}
      (he : rs = before ++ r :: after) (hb : AllFail l before w u) (hr : r l u = (.done h, v)) :
      Ends l rs w (before ++ [r]) (.done h) v
  | panicked {before after : List (Resolver τ)} {r : Resolver τ} {u v : World τ} {p : Payload}
      (he : rs = before ++ r :: after) (hb : AllFail l before w u)
      (hr : r l u = (.panicked p, v)) : Ends l rs w (before ++ [r]) (.panicked p) v
  | exhausted {v : World τ} (h : AllFail l rs w v) : Ends l rs w rs (.failed ()) v

/-- A resolver that fails is one more attempt in front. -/
lemma Ends.cons {r : Resolver τ} {e : ResolveError} {tried : List (Resolver τ)}
    {o : Outcome Unit (Handle τ)} (hr : r l w = (.failed e, u)) (h : Ends l rs u tried o v) :
    Ends l (r :: rs) w (r :: tried) o v := by
  cases h with
  | found he hb hf => exact .found (congrArg (r :: ·) he) (.cons hr hb) hf
  | panicked he hb hp => exact .panicked (congrArg (r :: ·) he) (.cons hr hb) hp
  | exhausted h => exact .exhausted (.cons hr h)

/-- Every search ends. -/
lemma ends_search (l : Locator) (rs : List (Resolver τ)) (w : World τ) :
    ∃ tried, Ends l rs w tried (search l rs w).1 (search l rs w).2 := by
  induction rs generalizing w with
  | nil => exact ⟨[], .exhausted (.nil w)⟩
  | cons r rs ih =>
    rw [search]
    rcases hr : r l w with ⟨h | e | p, u⟩
    · rw [Action.orElse_done (Action.forgetError_done hr)]
      exact ⟨[r], .found (List.nil_append _).symm (.nil w) hr⟩
    · rw [Action.orElse_failed (Action.forgetError_failed hr)]
      obtain ⟨tried, ht⟩ := ih u
      exact ⟨r :: tried, ht.cons hr⟩
    · rw [Action.orElse_panicked (Action.forgetError_panicked hr)]
      exact ⟨[r], .panicked (List.nil_append _).symm (.nil w) hr⟩

lemma allFail_of_search (h : search l rs w = (.failed (), v)) : AllFail l rs w v := by
  obtain ⟨tried, ht⟩ := ends_search l rs w
  rw [h] at ht
  cases ht with
  | exhausted ha => exact ha

section Log

variable {ι : Type} {log : World τ → List ι} {mark : Resolver τ → ι}

lemma AllFail.log_eq (h : AllFail l rs w v)
    (hm : ∀ r ∈ rs, ∀ u, log (r l u).2 = log u ++ [mark r]) : log v = log w ++ rs.map mark := by
  induction h with
  | nil w => simp
  | @cons r rs w u v e hr _ ih =>
    obtain ⟨h1, h2⟩ := List.forall_mem_cons.1 hm
    have hu : log u = log w ++ [mark r] := by rw [← h1 w, hr]
    rw [ih h2, hu, List.map_cons, List.append_assoc, List.singleton_append]

/-- If every resolver writes its mark into a log, the log tells the attempts. -/
lemma Ends.log_eq {tried : List (Resolver τ)} {o : Outcome Unit (Handle τ)}
    (h : Ends l rs w tried o v) (hm : ∀ r ∈ rs, ∀ u, log (r l u).2 = log u ++ [mark r]) :
    log v = log w ++ tried.map mark := by
  have last {before after : List (Resolver τ)} {r : Resolver τ} {u : World τ}
      (he : rs = before ++ r :: after) (hb : AllFail l before w u) :
      log (r l u).2 = log w ++ (before ++ [r]).map mark := by
    subst he
    obtain ⟨hbefore, hm⟩ := List.forall_mem_append.1 hm
    rw [(List.forall_mem_cons.1 hm).1 u, hb.log_eq hbefore, List.map_append, List.append_assoc]
    rfl
  cases h with
  | found he hb hr => rw [← last he hb, hr]
  | panicked he hb hr => rw [← last he hb, hr]
  | exhausted h => exact h.log_eq hm

end Log

/-! ## The error of a chain -/

/-- The error that a chain begins with is forgotten as soon as there is a member. -/
lemma chainFrom_concat_eq_failed_iff {last e : ResolveError} {r : Resolver τ} :
    chainFrom last l (rs ++ [r]) w = (.failed e, v) ↔
      ∃ u, AllFail l rs w u ∧ r l u = (.failed e, v) := by
  induction rs generalizing last w with
  | nil =>
    have hn : chainFrom last l [r] w = r l w := by
      rcases hr : r l w with ⟨h | d | p, u⟩
      · exact chainFrom_cons_done hr
      · exact chainFrom_cons_failed hr
      · exact chainFrom_cons_panicked hr
    rw [List.nil_append, hn]
    refine ⟨fun hr => ⟨w, .nil w, hr⟩, ?_⟩
    rintro ⟨_, ⟨⟩, hr⟩
    exact hr
  | cons q rs ih =>
    rw [List.cons_append]
    rcases hq : q l w with ⟨h | d | p, x⟩
    · rw [chainFrom_cons_done hq]
      refine iff_of_false (by simp) fun ⟨u, hu, _⟩ => ?_
      cases hu with
      | cons hd _ => rw [hq] at hd; cases hd
    · rw [chainFrom_cons_failed hq, ih]
      constructor
      · rintro ⟨u, hu, hr⟩
        exact ⟨u, .cons hq hu, hr⟩
      · rintro ⟨u, hu, hr⟩
        cases hu with
        | cons hd hu =>
          rw [hq] at hd
          cases hd
          exact ⟨u, hu, hr⟩
    · rw [chainFrom_cons_panicked hq]
      refine iff_of_false (by simp) fun ⟨u, hu, _⟩ => ?_
      cases hu with
      | cons hd _ => rw [hq] at hd; cases hd

end Resolver

namespace ResolverTree

variable {τ : Type} {l : Locator} {t : ResolverTree τ} {w v : World τ} {e : ResolveError}

/-! ## The last thing that a tree asks -/

/-- The last thing that the tree asks is a leaf. -/
inductive EndsInLeaf : ResolverTree τ → Prop
  | leaf (r : Resolver τ) : EndsInLeaf (leaf r)
  | chain {front : List (ResolverTree τ)} {t : ResolverTree τ} (h : EndsInLeaf t) :
      EndsInLeaf (chain (front ++ [t]))

/-- The last thing that the tree asks is a chain without members. -/
inductive EndsInEmpty : ResolverTree τ → Prop
  | empty : EndsInEmpty (chain [])
  | chain {front : List (ResolverTree τ)} {t : ResolverTree τ} (h : EndsInEmpty t) :
      EndsInEmpty (chain (front ++ [t]))

mutual

theorem endsInLeaf_or_endsInEmpty : ∀ t : ResolverTree τ, t.EndsInLeaf ∨ t.EndsInEmpty
  | leaf r => .inl (.leaf r)
  | chain ts => by
    rcases eq_nil_or_last_ends ts with rfl | ⟨front, t, rfl, h⟩
    · exact .inr .empty
    · exact h.imp .chain .chain

/-- What the last of some trees ends in. -/
theorem eq_nil_or_last_ends : ∀ ts : List (ResolverTree τ),
    ts = [] ∨ ∃ front t, ts = front ++ [t] ∧ (t.EndsInLeaf ∨ t.EndsInEmpty)
  | [] => .inl rfl
  | t :: ts => by
    rcases eq_nil_or_last_ends ts with rfl | ⟨front, last, rfl, h⟩
    · exact .inr ⟨[], t, rfl, endsInLeaf_or_endsInEmpty t⟩
    · exact .inr ⟨t :: front, last, rfl, h⟩

end

lemma EndsInEmpty.not_full (h : t.EndsInEmpty) : ¬t.Full := by
  induction h with
  | empty => exact fun hf => hf.1 rfl
  | @chain front t _ ih => exact fun hf => ih ((allFull_iff _).1 hf.2 t (by simp))

/-- The last thing in a tree without empty chains is a leaf. -/
lemma Full.endsInLeaf (h : t.Full) : t.EndsInLeaf :=
  (endsInLeaf_or_endsInEmpty t).resolve_right fun he => he.not_full h

/-- Every chain inside the tree has a member; the tree itself may be a chain that has none. -/
def FullInside : ResolverTree τ → Prop
  | leaf _ => True
  | chain ts => ∀ m ∈ ts, m.Full

lemma FullInside.eq_or_endsInLeaf (h : t.FullInside) : t = chain [] ∨ t.EndsInLeaf := by
  cases t with
  | leaf r => exact .inr (.leaf r)
  | chain ts =>
    rcases List.eq_nil_or_concat ts with rfl | ⟨front, m, rfl⟩
    · exact .inl rfl
    · rw [List.concat_eq_append] at h ⊢
      exact .inr (.chain (Full.endsInLeaf (h m (by simp))))

/-! ## The error of a tree -/

/-- A tree fails when all its leaves do. -/
lemma allFail_of_failed (h : t.resolver l w = (.failed e, v)) :
    Resolver.AllFail l t.leaves w v := by
  refine Resolver.allFail_of_search ?_
  rw [← forgetError_resolver, Action.forgetError_failed h]

/-- Members fail one after the other when their leaves do. -/
lemma allFail_flatMap_leaves {ts : List (ResolverTree τ)}
    (h : Resolver.AllFail l (ts.map resolver) w v) :
    Resolver.AllFail l (ts.flatMap leaves) w v := by
  induction ts generalizing w with
  | nil =>
    cases h with
    | nil => exact .nil _
  | cons t ts ih =>
    cases h with
    | cons hr hs =>
      rw [List.flatMap_cons]
      exact (allFail_of_failed hr).append (ih hs)

/-- The error of a chain is that of its last member. -/
lemma resolver_concat_eq_failed_iff {front : List (ResolverTree τ)} {m : ResolverTree τ} :
    (chain (front ++ [m])).resolver l w = (.failed e, v) ↔
      ∃ u, Resolver.AllFail l (front.map resolver) w u ∧ m.resolver l u = (.failed e, v) := by
  rw [resolver_chain, List.map_append, List.map_singleton, Resolver.chain,
    Resolver.chainFrom_concat_eq_failed_iff]

/-- A tree that ends in an empty chain forgets what has been wrong before. -/
lemma EndsInEmpty.error (h : t.EndsInEmpty) (hr : t.resolver l w = (.failed e, v)) :
    e = .notFound l := by
  induction h generalizing w with
  | empty =>
    rw [resolver_chain, List.map_nil, Resolver.chain_nil, Action.fail_apply] at hr
    cases hr
    rfl
  | chain _ ih =>
    obtain ⟨u, -, hm⟩ := resolver_concat_eq_failed_iff.1 hr
    exact ih hm

/-- The error of a tree that ends in a leaf is that of its last leaf. -/
lemma EndsInLeaf.error (h : t.EndsInLeaf) (hr : t.resolver l w = (.failed e, v)) :
    ∃ rs r u, t.leaves = rs ++ [r] ∧ Resolver.AllFail l rs w u ∧ r l u = (.failed e, v) := by
  induction h generalizing w with
  | leaf r => exact ⟨[], r, w, leaves_leaf r, .nil w, hr⟩
  | @chain front m _ ih =>
    obtain ⟨x, hx, hm⟩ := resolver_concat_eq_failed_iff.1 hr
    obtain ⟨rs, r, u, hl, hu, hrr⟩ := ih hm
    refine ⟨front.flatMap leaves ++ rs, r, u, ?_, (allFail_flatMap_leaves hx).append hu, hrr⟩
    rw [leaves_chain, List.flatMap_append, List.flatMap_singleton, hl, List.append_assoc]

/-- But for its error, a tree of chains is the chain of its leaves. -/
lemma forgetError_chain_leaves (t : ResolverTree τ) (l : Locator) :
    (Resolver.chain t.leaves l).forgetError = (t.resolver l).forgetError := by
  rw [forgetError_resolver, Resolver.chain, Resolver.forgetError_chainFrom]

/-- A tree that ends in a leaf is the chain of its leaves, in its error, too. -/
lemma EndsInLeaf.resolver_eq (h : t.EndsInLeaf) (l : Locator) :
    t.resolver l = Resolver.chain t.leaves l := by
  funext w
  by_cases hr : ∃ e v, t.resolver l w = (.failed e, v)
  · obtain ⟨e, v, hr⟩ := hr
    obtain ⟨rs, r, u, hl, hu, hrr⟩ := h.error hr
    rw [hr, hl, Resolver.chain, Resolver.chainFrom_concat_eq_failed_iff.2 ⟨u, hu, hrr⟩]
  · exact Action.eq_of_forgetError_eq (congrFun (forgetError_chain_leaves t l) w).symm
      (by simpa using hr)

lemma FullInside.resolver_eq (h : t.FullInside) (l : Locator) :
    t.resolver l = Resolver.chain t.leaves l := by
  rcases h.eq_or_endsInLeaf with rfl | he
  · rfl
  · exact he.resolver_eq l

/-- **A tree of chains is a search through its leaves.**  The leaves are tried from left to right,
up to the first that finds a handle, which is the answer, or panics, which ends all chains around
it; the chain of all leaves tries the same ones and ends in the same way.  If the leaves write their
attempts into a log, the attempts are what the log tells.

When every leaf fails, the error of a chain is that of its last member, and that nothing was found
if it has none.  So if no chain inside the tree is empty, the error is that of the chain of all
leaves, which is that of the last leaf.  What counts is the last thing that is asked: if that is a
leaf, the tree is the chain of its leaves, and if it is an empty chain, the error says that nothing
was found. -/
theorem resolver_through_leaves (t : ResolverTree τ) (l : Locator) (w : World τ) :
    (∃ tried o v, Resolver.Ends l t.leaves w tried o v ∧
      (t.resolver l).forgetError w = (o, v) ∧
      (Resolver.chain t.leaves l).forgetError w = (o, v) ∧
      ∀ (ι : Type) (log : World τ → List ι) (mark : Resolver τ → ι),
        (∀ r ∈ t.leaves, ∀ u, log (r l u).2 = log u ++ [mark r]) →
          log v = log w ++ tried.map mark) ∧
    (t = chain [] → t.resolver l w = (.failed (.notFound l), w)) ∧
    (∀ front m, t = chain (front ++ [m]) → ∀ e v, t.resolver l w = (.failed e, v) ↔
      ∃ u, Resolver.AllFail l (front.map resolver) w u ∧ m.resolver l u = (.failed e, v)) ∧
    (t.FullInside → t.resolver l w = Resolver.chain t.leaves l w ∧
      ∀ front r, t.leaves = front ++ [r] → ∀ e v, t.resolver l w = (.failed e, v) ↔
        ∃ u, Resolver.AllFail l front w u ∧ r l u = (.failed e, v)) ∧
    (t.EndsInLeaf ∨ t.EndsInEmpty) ∧
    (t.EndsInLeaf → t.resolver l w = Resolver.chain t.leaves l w) ∧
    (t.EndsInEmpty → ∀ e v, t.resolver l w = (.failed e, v) → e = .notFound l) := by
  refine ⟨?_, ?_, ?_, fun hf => ⟨congrFun (hf.resolver_eq l) w, ?_⟩, endsInLeaf_or_endsInEmpty t,
    fun h => congrFun (h.resolver_eq l) w, fun h e v => h.error⟩
  · obtain ⟨tried, ht⟩ := Resolver.ends_search l t.leaves w
    refine ⟨tried, _, _, ht, ?_, ?_, fun ι log mark hm => ht.log_eq hm⟩
    · rw [forgetError_resolver]
    · rw [forgetError_chain_leaves, forgetError_resolver]
  · rintro rfl
    rfl
  · rintro front m rfl e v
    exact resolver_concat_eq_failed_iff
  · intro front r hl e v
    rw [hf.resolver_eq l, hl, Resolver.chain, Resolver.chainFrom_concat_eq_failed_iff]

end ResolverTree

namespace LoggedChain

/-- A resolver that writes its number into a log, and always ends in the same way. -/
def logged (n : ℕ) (o : Outcome ResolveError (Handle (List ℕ))) : Resolver (List ℕ) :=
  fun _ w => (o, { w with ambient := w.ambient ++ [n] })

def absent : Locator := ⟨"absent", by decide⟩

def world : World (List ℕ) := { machine := .fresh, ambient := [] }

/-- The number of a logged resolver is what it adds to an empty log. -/
def mark (r : Resolver (List ℕ)) : ℕ := (r absent world).2.ambient.headD 0

/-- A leaf that fails, and a chain of one that panics and one that is not tried. -/
def broken : ResolverTree (List ℕ) :=
  .chain [.leaf (logged 1 (.failed (.notExecutable "tool"))),
    .chain [.leaf (logged 2 (.panicked (.fixed "broken"))),
      .leaf (logged 3 (.done fun _ _ => .pure []))]]

/-- A leaf that fails before a chain without members. -/
def forgetful : ResolverTree (List ℕ) :=
  .chain ([.leaf (logged 1 (.failed (.notExecutable "tool")))] ++ [.chain []])

end LoggedChain

open LoggedChain in
/-- The first tree has no empty chain and comes to the chain of its leaves; the second one ends in
an empty chain and forgets the error of its leaf. -/
theorem ResolverTree.resolver_through_leaves_logged :
    broken.FullInside ∧
      (∀ r ∈ broken.leaves, ∀ u, (r absent u).2.ambient = u.ambient ++ [mark r]) ∧
      broken.resolver absent world = Resolver.chain broken.leaves absent world ∧
      (broken.resolver absent world).1 = .panicked (.fixed "broken") ∧
      (∃ tried o v, Resolver.Ends absent broken.leaves world tried o v ∧
        (broken.resolver absent world).2 = v ∧ tried.map mark = [1, 2]) ∧
      forgetful.EndsInEmpty ∧
      forgetful.resolver absent world =
        (.failed (.notFound absent), { world with ambient := [1] }) ∧
      Resolver.chain forgetful.leaves absent world =
        (.failed (.notExecutable "tool"), { world with ambient := [1] }) := by
  have hf : broken.FullInside := by
    simp [broken, FullInside, Full, AllFull]
  have hm : ∀ r ∈ broken.leaves, ∀ u, (r absent u).2.ambient = u.ambient ++ [mark r] := by
    simp [broken, logged, mark, world]
  have he : forgetful.EndsInEmpty := .chain .empty
  have hr : forgetful.resolver absent world =
      (.failed (.notFound absent), { world with ambient := [1] }) := rfl
  obtain ⟨⟨tried, o, v, ht, hb, -, hlog⟩, -, -, hflat, -⟩ :=
    resolver_through_leaves broken absent world
  have hv : (broken.resolver absent world).2 = v := congrArg Prod.snd hb
  refine ⟨hf, hm, (hflat hf).1, rfl, ⟨tried, o, v, ht, hv, ?_⟩, he, hr, rfl⟩
  have hl := hlog ℕ (·.ambient) mark hm
  rw [← hv] at hl
  exact hl.symm

end BenchRoster
