/-
# Searching the leaves of a tree of chains

A chain goes on to its next member when one of them fails, and ends with the first handle or panic.
But for the error of a search without result, a tree of chains is therefore the search through its
leaves from left to right.

* `Action.orElse` goes on to a second action when a first one fails;
* `Resolver.search` is the search through a list of resolvers;
* `ResolverTree.forgetError_resolver` says that a tree of chains, however deep, comes to the search
  through its leaves.
-/
import BenchRoster.Resolver.Tree
import Mathlib.Tactic.Lemma

namespace BenchRoster

namespace Action

variable {τ ε δ α : Type}

/-- An action that does not tell why it failed. -/
def forgetError (x : Action τ ε α) : Action τ Unit α := x.mapError fun _ => ()

/-- Goes on to a second action when the first one fails; a value or a panic ends both. -/
def orElse (x y : Action τ ε α) : Action τ ε α := fun w =>
  match x w with
  | (.done a, v) => (.done a, v)
  | (.failed _, v) => y v
  | (.panicked p, v) => (.panicked p, v)

lemma forgetError_done {x : Action τ ε α} {w v : World τ} {a : α} (h : x w = (.done a, v)) :
    x.forgetError w = (.done a, v) := by
  simp [forgetError, mapError, h, Outcome.mapError]

lemma forgetError_failed {x : Action τ ε α} {w v : World τ} {e : ε} (h : x w = (.failed e, v)) :
    x.forgetError w = (.failed (), v) := by
  simp [forgetError, mapError, h, Outcome.mapError]

lemma forgetError_panicked {x : Action τ ε α} {w v : World τ} {p : Payload}
    (h : x w = (.panicked p, v)) : x.forgetError w = (.panicked p, v) := by
  simp [forgetError, mapError, h, Outcome.mapError]

lemma orElse_done {x y : Action τ ε α} {w v : World τ} {a : α} (h : x w = (.done a, v)) :
    x.orElse y w = (.done a, v) := by
  simp [orElse, h]

lemma orElse_failed {x y : Action τ ε α} {w v : World τ} {e : ε} (h : x w = (.failed e, v)) :
    x.orElse y w = y v := by
  simp [orElse, h]

lemma orElse_panicked {x y : Action τ ε α} {w v : World τ} {p : Payload}
    (h : x w = (.panicked p, v)) : x.orElse y w = (.panicked p, v) := by
  simp [orElse, h]

lemma orElse_assoc (x y z : Action τ ε α) : (x.orElse y).orElse z = x.orElse (y.orElse z) := by
  funext w
  rcases h : x w with ⟨a | e | p, v⟩
  · rw [orElse_done h, orElse_done (orElse_done h)]
  · rw [orElse_failed h]
    simp only [orElse, h]
  · rw [orElse_panicked h, orElse_panicked (orElse_panicked h)]

end Action

namespace Resolver

variable {τ : Type}

/-- Tries resolvers in order up to the first that does not fail. -/
def search (l : Locator) : List (Resolver τ) → Action τ Unit (Handle τ)
  | [] => .fail ()
  | r :: rs => (r l).forgetError.orElse (search l rs)

lemma search_append (l : Locator) (rs qs : List (Resolver τ)) :
    search l (rs ++ qs) = (search l rs).orElse (search l qs) := by
  induction rs with
  | nil => rfl
  | cons r rs ih => rw [List.cons_append, search, search, ih, Action.orElse_assoc]

/-- But for its error, a chain is the search through its members. -/
lemma forgetError_chainFrom (last : ResolveError) (l : Locator) (rs : List (Resolver τ)) :
    (chainFrom last l rs).forgetError = search l rs := by
  induction rs generalizing last with
  | nil => rfl
  | cons r rs ih =>
    funext w
    rcases h : r l w with ⟨a | e | p, v⟩
    · rw [Action.forgetError_done (chainFrom_cons_done h), search,
        Action.orElse_done (Action.forgetError_done h)]
    · rw [search, Action.orElse_failed (Action.forgetError_failed h), ← ih e, Action.forgetError,
        Action.mapError, chainFrom_cons_failed h]
      rfl
    · rw [Action.forgetError_panicked (chainFrom_cons_panicked h), search,
        Action.orElse_panicked (Action.forgetError_panicked h)]

end Resolver

namespace ResolverTree

variable {τ : Type}

mutual

/-- But for its error, a tree of chains is the search through its leaves. -/
theorem forgetError_resolver (l : Locator) :
    ∀ t : ResolverTree τ, (t.resolver l).forgetError = Resolver.search l t.leaves
  | leaf r => by
    funext w
    rw [leaves_leaf, Resolver.search, Resolver.search, resolver]
    rcases h : r l w with ⟨a | e | p, v⟩
    · rw [Action.forgetError_done h, Action.orElse_done (Action.forgetError_done h)]
    · rw [Action.forgetError_failed h, Action.orElse_failed (Action.forgetError_failed h),
        Action.fail_apply]
    · rw [Action.forgetError_panicked h, Action.orElse_panicked (Action.forgetError_panicked h)]
  | chain ts => by
    rw [resolver, leaves, Resolver.chain, Resolver.forgetError_chainFrom]
    exact search_resolvers l ts

/-- The search through some trees is the one through all their leaves. -/
theorem search_resolvers (l : Locator) :
    ∀ ts : List (ResolverTree τ),
      Resolver.search l (resolvers ts) = Resolver.search l (leavesOf ts)
  | [] => rfl
  | t :: ts => by
    rw [resolvers, leavesOf, Resolver.search, Resolver.search_append, forgetError_resolver l t,
      search_resolvers l ts]

end

end ResolverTree

end BenchRoster
