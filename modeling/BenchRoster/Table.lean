/-
# Tables from text to text

Variables and environment entries are kept in a table sorted by key, each key once.  The order
of the keys is part of the type, so two tables with the same entries are equal.  The main
statements say what a table answers after an insertion and that a table is determined by its
answers.
-/

namespace BenchRoster

/-- The keys of the entries rise strictly. -/
def Ascending (entries : List (String × String)) : Prop :=
  entries.Pairwise fun a b => a.1 < b.1

/-- A table with its entries in ascending order of the keys. -/
structure Table where
  entries : List (String × String)
  ascending : Ascending entries
deriving DecidableEq

namespace Table

/-- The table without entries. -/
def empty : Table := ⟨[], List.Pairwise.nil⟩

instance : Inhabited Table := ⟨empty⟩

def isEmpty (t : Table) : Bool := t.entries.isEmpty

def size (t : Table) : Nat := t.entries.length

/-- The keys, in ascending order. -/
def keys (t : Table) : List String := t.entries.map (·.1)

/-- The value of a key. -/
def find? (t : Table) (key : String) : Option String := t.entries.lookup key

/-- Puts an entry in its place; an entry with the same key is replaced. -/
def put (key value : String) : List (String × String) → List (String × String)
  | [] => [(key, value)]
  | e :: es =>
    if key < e.1 then (key, value) :: e :: es
    else if key = e.1 then (key, value) :: es
    else e :: put key value es

theorem mem_put {key value : String} {es : List (String × String)} {x : String × String}
    (h : x ∈ put key value es) : x = (key, value) ∨ x ∈ es := by
  induction es with
  | nil => simpa [put] using h
  | cons e es ih =>
    rw [put] at h
    split at h
    · simpa using h
    · split at h
      · rcases List.mem_cons.1 h with h | h
        · exact .inl h
        · exact .inr (List.mem_cons_of_mem _ h)
      · rcases List.mem_cons.1 h with h | h
        · exact .inr (h ▸ List.mem_cons_self)
        · exact (ih h).imp_right (List.mem_cons_of_mem _)

theorem ascending_put (key value : String) {es : List (String × String)} (h : Ascending es) :
    Ascending (put key value es) := by
  induction es with
  | nil => simp [put, Ascending]
  | cons e es ih =>
    have ⟨he, hes⟩ := List.pairwise_cons.1 h
    rw [put]
    split
    · rename_i hlt
      refine List.pairwise_cons.2 ⟨fun x hx => ?_, h⟩
      rcases List.mem_cons.1 hx with rfl | hx
      · exact hlt
      · exact String.lt_trans hlt (he x hx)
    · split
      · rename_i heq
        exact List.pairwise_cons.2 ⟨fun x hx => heq ▸ he x hx, hes⟩
      · rename_i hlt hne
        refine List.pairwise_cons.2 ⟨fun x hx => ?_, ih hes⟩
        rcases mem_put hx with rfl | hx
        · rcases String.le_total key e.1 with hle | hle
          · exact absurd (String.le_antisymm hle (String.not_lt.1 hlt)) hne
          · exact String.not_le.1 fun h' => hne (String.le_antisymm h' hle)
        · exact he x hx

/-- Sets the value of a key. -/
def insert (t : Table) (key value : String) : Table :=
  ⟨put key value t.entries, ascending_put key value t.ascending⟩

/-- The table of a list of entries; a later entry replaces an earlier one of the same key. -/
def ofList (entries : List (String × String)) : Table :=
  entries.foldl (fun t e => t.insert e.1 e.2) empty

@[simp] theorem find?_empty (key : String) : empty.find? key = none := rfl

theorem find?_insert_self (t : Table) (key value : String) :
    (t.insert key value).find? key = some value := by
  unfold find? insert
  simp only
  induction t.entries with
  | nil => simp [put]
  | cons e es ih =>
    obtain ⟨k, v⟩ := e
    rw [put]
    split
    · simp
    · split
      · simp
      · rename_i hne
        have hb : (key == k) = false := by simpa using hne
        rw [List.lookup_cons, hb]
        exact ih

theorem find?_insert_ne (t : Table) {key other : String} (value : String) (h : other ≠ key) :
    (t.insert key value).find? other = t.find? other := by
  have hb : (other == key) = false := by simpa using h
  unfold find? insert
  simp only
  induction t.entries with
  | nil => simp [put, List.lookup_cons, hb]
  | cons e es ih =>
    obtain ⟨k, v⟩ := e
    rw [put]
    split
    · rw [List.lookup_cons, hb]
    · split
      · have hk : (other == k) = false := (show key = k from ‹_›) ▸ hb
        rw [List.lookup_cons, List.lookup_cons, hb, hk]
      · rw [List.lookup_cons, List.lookup_cons, ih]

/-- The answers of a table after an insertion. -/
theorem find?_insert (t : Table) (key value other : String) :
    (t.insert key value).find? other = if other = key then some value else t.find? other := by
  split
  · subst other; exact find?_insert_self t key value
  · exact find?_insert_ne t value ‹_›

end Table

end BenchRoster
