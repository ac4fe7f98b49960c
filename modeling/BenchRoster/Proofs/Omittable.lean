/-
# Fields that may be left out

A record whose field is left out is completed as if the default of the field had been written.  This
asks for something: to have the default in a partial record must make no difference in the end, and
the other fields must take no notice of it.

* `Omittable` says so of a field, for any format whose readers are `Observed`;
* `Slot` is a place in a document where an entry may be left out.
-/
import BenchRoster.Format
import Mathlib.Tactic.Lemma

namespace BenchRoster

/-- A format with the values that its readers may give. -/
class Observed (m : Type → Type) [Format m] where
  Yields : {α : Type} → m α → α → Prop
  exists_of_map {α β : Type} {f : α → β} {read : m α} {y : β} :
    Yields (Format.map f read) y → ∃ x, y = f x

section

variable {m : Type → Type} [Format m] [Observed m] {π α : Type}

/-- A field takes no notice of a change that stands for having another field. -/
structure Field.Apart (f : Field m π) (change : π → π) (g : Field m π) : Prop where
  seen_change (p : π) : g.seen (change p) = g.seen p
  seen_add {add : π → π} (h : Observed.Yields g.read add) (p : π) : f.seen (add p) = f.seen p
  add_change {add : π → π} (h : Observed.Yields g.read add) (p : π) :
    add (change p) = change (add p)

/-- A field of a record that may be left out: to write a certain value changes a partial record in a
way that the other fields take no notice of, and that makes no difference in the end. -/
structure Omittable (fields : List (Field m π)) (blank : π) (finish : π → Except String α)
    (f : Field m π) (change : π → π) : Prop where
  unseen : f.seen blank = false
  finish_eq (p : π) (h : f.seen p = false) : finish (change p) = finish p
  apart : ∀ g ∈ fields, g.key ≠ f.key → f.Apart change g

/-- A field that puts a value into a place of its own takes no notice of the other places. -/
lemma Field.Apart.of_map {f : Field m π} {change : π → π} {key : String} {seen : π → Bool}
    {put : α → π → π} {read : m α} (hs : ∀ p, seen (change p) = seen p)
    (hf : ∀ x p, f.seen (put x p) = f.seen p)
    (hp : ∀ x p, put x (change p) = change (put x p)) :
    f.Apart change ⟨key, seen, Format.map put read⟩ where
  seen_change := hs
  seen_add h p := by
    obtain ⟨x, rfl⟩ := Observed.exists_of_map h
    exact hf x p
  add_change h p := by
    obtain ⟨x, rfl⟩ := Observed.exists_of_map h
    exact hp x p

end

/-- A field that is found has the key and is one of the fields. -/
lemma Field.mem_of_find? {m : Type → Type} {π : Type} {fields : List (Field m π)} {key : String}
    {f : Field m π} (hf : Field.find? fields key = some f) : f ∈ fields ∧ f.key = key :=
  ⟨List.mem_of_find?_eq_some hf, by simpa using List.find?_some hf⟩

/-- A place where an entry may be left out: one of the entries of a record with the given keys, with
the ways to write its default, or a place inside of an entry. -/
inductive Slot (V : Type) where
  | entry (known : List String) (key : String) (written : V → Prop)
  | inside (known : List String) (key : String) (slot : Slot V)

end BenchRoster
