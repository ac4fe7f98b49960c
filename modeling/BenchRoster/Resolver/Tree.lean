/-
# Trees of chains

A chain may have chains among its members.  Seen from its leaves such a tree is one search from left
to right: the resolvers at its leaves are tried in order until one of them finds a handle or panics.
-/
import BenchRoster.Resolver

namespace BenchRoster

/-- Resolvers put together by chains. -/
inductive ResolverTree (τ : Type) where
  | leaf (r : Resolver τ)
  | chain (members : List (ResolverTree τ))

namespace ResolverTree

variable {τ : Type}

mutual

/-- The resolver that a tree describes. -/
def resolver : ResolverTree τ → Resolver τ
  | leaf r => r
  | chain members => Resolver.chain (resolvers members)

/-- The resolvers of the members of a chain. -/
def resolvers : List (ResolverTree τ) → List (Resolver τ)
  | [] => []
  | t :: ts => t.resolver :: resolvers ts

end

mutual

/-- The resolvers at the leaves, from left to right. -/
def leaves : ResolverTree τ → List (Resolver τ)
  | leaf r => [r]
  | chain members => leavesOf members

/-- The leaves of some trees, from left to right. -/
def leavesOf : List (ResolverTree τ) → List (Resolver τ)
  | [] => []
  | t :: ts => t.leaves ++ leavesOf ts

end

mutual

/-- Every chain in the tree has a member. -/
def Full : ResolverTree τ → Prop
  | leaf _ => True
  | chain members => members ≠ [] ∧ AllFull members

/-- Every chain in some trees has a member. -/
def AllFull : List (ResolverTree τ) → Prop
  | [] => True
  | t :: ts => t.Full ∧ AllFull ts

end

theorem resolvers_eq_map (ts : List (ResolverTree τ)) : resolvers ts = ts.map resolver := by
  induction ts with
  | nil => rfl
  | cons t ts ih => rw [resolvers, ih, List.map_cons]

theorem leavesOf_eq_flatMap (ts : List (ResolverTree τ)) : leavesOf ts = ts.flatMap leaves := by
  induction ts with
  | nil => rfl
  | cons t ts ih => rw [leavesOf, ih, List.flatMap_cons]

theorem allFull_iff (ts : List (ResolverTree τ)) : AllFull ts ↔ ∀ t ∈ ts, t.Full := by
  induction ts with
  | nil => simp [AllFull]
  | cons t ts ih => rw [AllFull, ih, List.forall_mem_cons]

@[simp] theorem leaves_leaf (r : Resolver τ) : (leaf r).leaves = [r] := rfl

@[simp] theorem leaves_chain (ts : List (ResolverTree τ)) :
    (chain ts).leaves = ts.flatMap leaves := leavesOf_eq_flatMap ts

@[simp] theorem resolver_chain (ts : List (ResolverTree τ)) :
    (chain ts).resolver = Resolver.chain (ts.map resolver) := by
  rw [resolver, resolvers_eq_map]

end ResolverTree

end BenchRoster
