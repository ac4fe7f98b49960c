/-
# Resolvers

A resolver turns a locator into a handle: something that transforms a source with some arguments.
Resolvers are put together from tables of handles, chains of other resolvers and the look-up of
programs.  A chain gives the first handle that one of its members finds; the main statements say
what a chain of several members comes to.
-/
import BenchRoster.Name
import BenchRoster.Transform
import BenchRoster.World

namespace BenchRoster

/-- Why a locator leads to nothing that can be used. -/
inductive ResolveError where
  | notFound (locator : Locator)
  | notExecutable (path : String)
  /-- The look-up itself is not possible. -/
  | lookup (locator : Locator) (reason : String)
deriving DecidableEq

namespace ResolveError

def message : ResolveError → String
  | notFound l => s!"no backend found for locator '{l.text}'"
  | notExecutable path => s!"{path} is not executable"
  | lookup l reason => s!"lookup of '{l.text}' failed: {reason}"

end ResolveError

/-- Transforms a source with some arguments. -/
abbrev Handle (τ : Type) := String → List String → Action τ TransformError Bytes

abbrev Resolver (τ : Type) := Locator → Action τ ResolveError (Handle τ)

/-! ## Tables of handles -/

/-- Handles under the texts of their locators. -/
structure HandleTable (τ : Type) where
  entries : List (String × Handle τ) := []

namespace HandleTable

variable {τ : Type}

/-- Puts a handle into the table, in place of an earlier one of the same locator. -/
def insert (t : HandleTable τ) (locator : String) (h : Handle τ) : HandleTable τ :=
  ⟨(locator, h) :: t.entries.filter (·.1 != locator)⟩

def find? (t : HandleTable τ) (locator : String) : Option (Handle τ) := t.entries.lookup locator

def size (t : HandleTable τ) : Nat := t.entries.length

def isEmpty (t : HandleTable τ) : Bool := t.entries.isEmpty

/-- Finds what the table holds. -/
def resolver (t : HandleTable τ) : Resolver τ := fun l =>
  match t.find? l.text with
  | some h => .pure h
  | none => .fail (.notFound l)

theorem find?_insert (t : HandleTable τ) (locator other : String) (h : Handle τ) :
    (t.insert locator h).find? other = if other = locator then some h else t.find? other := by
  unfold find? insert
  by_cases he : other = locator
  · simp [he]
  · rw [List.lookup_cons, if_neg he]
    simp only [beq_eq_false_iff_ne.2 he]
    induction t.entries with
    | nil => rfl
    | cons e es ih =>
      obtain ⟨k, v⟩ := e
      by_cases hk : k = locator
      · subst hk
        have : (other == k) = false := by simpa using he
        simp [List.lookup_cons, this, ih]
      · simp [hk, List.lookup_cons, ih]

end HandleTable

/-! ## Chains -/

namespace Resolver

variable {τ : Type}

/-- Tries resolvers in order; the error of the last one counts when all fail. -/
def chainFrom (last : ResolveError) (l : Locator) :
    List (Resolver τ) → Action τ ResolveError (Handle τ)
  | [] => .fail last
  | r :: rs => fun w =>
    match r l w with
    | (.done h, w) => (.done h, w)
    | (.failed e, w) => chainFrom e l rs w
    | (.panicked p, w) => (.panicked p, w)

/-- A chain of resolvers: the first handle found counts, and a panic ends the search. -/
def chain (rs : List (Resolver τ)) : Resolver τ := fun l => chainFrom (.notFound l) l rs

theorem chain_nil (l : Locator) : chain ([] : List (Resolver τ)) l = .fail (.notFound l) := rfl

theorem chainFrom_cons_done {r : Resolver τ} {rs : List (Resolver τ)} {last : ResolveError}
    {l : Locator} {w v : World τ} {h : Handle τ} (hr : r l w = (.done h, v)) :
    chainFrom last l (r :: rs) w = (.done h, v) := by
  simp [chainFrom, hr]

theorem chainFrom_cons_failed {r : Resolver τ} {rs : List (Resolver τ)} {last e : ResolveError}
    {l : Locator} {w v : World τ} (hr : r l w = (.failed e, v)) :
    chainFrom last l (r :: rs) w = chainFrom e l rs v := by
  simp [chainFrom, hr]

theorem chainFrom_cons_panicked {r : Resolver τ} {rs : List (Resolver τ)} {last : ResolveError}
    {l : Locator} {w v : World τ} {p : Payload} (hr : r l w = (.panicked p, v)) :
    chainFrom last l (r :: rs) w = (.panicked p, v) := by
  simp [chainFrom, hr]

end Resolver

/-! ## Programs -/

/-- The handle of a program: it is run once for each source. -/
def programHandle (τ : Type) (program : String) : Handle τ := fun source args =>
  .onMachine fun m => m.transform program args source

end BenchRoster
