/-
# Rosters of backends

A descriptor names a backend, says where its dependency is found, and holds the adapter that makes
an invocation of it.  A roster is a list of descriptors no two of which share a name; the main
statement says that a list makes a roster exactly when its names differ, and that otherwise the
first name that occurred before is reported.
-/
import BenchRoster.Adapter

namespace BenchRoster

/-- A backend that can take part in a comparison. -/
structure Descriptor (τ : Type) where
  name : BackendName
  locator : Locator
  adapter : Adapter τ

/-- The first name in a list that is among those seen or occurs earlier in the list. -/
def firstRepeated? (seen : List BackendName) : List BackendName → Option BackendName
  | [] => none
  | n :: ns => if seen.contains n then some n else firstRepeated? (n :: seen) ns

theorem firstRepeated?_eq_none_iff {seen names : List BackendName} :
    firstRepeated? seen names = none ↔ names.Nodup ∧ ∀ n ∈ names, n ∉ seen := by
  induction names generalizing seen with
  | nil => simp [firstRepeated?]
  | cons n ns ih =>
    rw [firstRepeated?]
    split
    · simp_all
    · rw [ih]
      simp only [List.nodup_cons, List.mem_cons, not_or]
      constructor
      · rintro ⟨hn, hs⟩
        refine ⟨⟨fun h => (hs n h).1 rfl, hn⟩, ?_⟩
        rintro m (rfl | hm)
        · simp_all
        · exact (hs m hm).2
      · rintro ⟨⟨h1, h2⟩, h3⟩
        exact ⟨h2, fun m hm => ⟨fun he => h1 (he ▸ hm), h3 m (.inr hm)⟩⟩

/-- A repeated name is found at the place where it first occurs for the second time. -/
theorem firstRepeated?_eq_some_iff {seen names : List BackendName} {n : BackendName} :
    firstRepeated? seen names = some n ↔
      ∃ before after, names = before ++ n :: after ∧ (n ∈ seen ∨ n ∈ before) ∧
        before.Nodup ∧ ∀ m ∈ before, m ∉ seen := by
  induction names generalizing seen with
  | nil => simp [firstRepeated?]
  | cons m ms ih =>
    rw [firstRepeated?]
    split
    · rename_i hm
      constructor
      · intro h
        cases h
        exact ⟨[], ms, rfl, .inl (by simpa using hm), .nil, by simp⟩
      · rintro ⟨before, after, he, -, -, hb⟩
        cases before with
        | nil => simp_all
        | cons b bs =>
          simp only [List.cons_append, List.cons.injEq] at he
          exact absurd (by simpa [he.1] using hm) (hb b (by simp))
    · rename_i hm
      have hm : m ∉ seen := by simpa using hm
      rw [ih]
      constructor
      · rintro ⟨before, after, he, hn, hnd, hb⟩
        refine ⟨m :: before, after, by simp [he], ?_, ?_, ?_⟩
        · rcases hn with h | h
          · rcases List.mem_cons.1 h with rfl | h
            · exact .inr (by simp)
            · exact .inl h
          · exact .inr (List.mem_cons_of_mem _ h)
        · exact List.nodup_cons.2 ⟨fun h => hb m h (by simp), hnd⟩
        · intro k hk
          rcases List.mem_cons.1 hk with rfl | hk
          · exact hm
          · exact fun h => hb k hk (List.mem_cons_of_mem _ h)
      · rintro ⟨before, after, he, hn, hnd, hb⟩
        cases before with
        | nil =>
          simp only [List.nil_append, List.cons.injEq] at he
          rcases hn with h | h
          · exact absurd (he.1 ▸ h) hm
          · simp at h
        | cons b bs =>
          simp only [List.cons_append, List.cons.injEq] at he
          obtain ⟨rfl, he⟩ := he
          rw [List.nodup_cons] at hnd
          refine ⟨bs, after, he, ?_, hnd.2, ?_⟩
          · rcases hn with h | h
            · exact .inl (List.mem_cons_of_mem _ h)
            · rcases List.mem_cons.1 h with rfl | h
              · exact .inl (by simp)
              · exact .inr h
          · intro k hk h
            rcases List.mem_cons.1 h with rfl | h
            · exact hnd.1 hk
            · exact hb k (List.mem_cons_of_mem _ hk) h

/-- Descriptors in the order of their declaration, each name once. -/
structure Roster (τ : Type) where
  descriptors : List (Descriptor τ)
  distinct : (descriptors.map (·.name)).Nodup

namespace Roster

variable {τ : Type}

/-- The roster without backends. -/
def empty : Roster τ := ⟨[], by simp⟩

/-- Makes a roster; the first name that occurred before is refused. -/
def ofList (ds : List (Descriptor τ)) : Except Rejection (Roster τ) :=
  match h : firstRepeated? [] (ds.map (·.name)) with
  | none => .ok ⟨ds, (firstRepeated?_eq_none_iff.1 h).1⟩
  | some n => .error (.duplicateBackend n.text)

def size (r : Roster τ) : Nat := r.descriptors.length

def isEmpty (r : Roster τ) : Bool := r.descriptors.isEmpty

/-- The names in the order of declaration. -/
def names (r : Roster τ) : List BackendName := r.descriptors.map (·.name)

theorem ofList_eq_ok_iff {ds : List (Descriptor τ)} {r : Roster τ} :
    ofList ds = .ok r ↔ r.descriptors = ds := by
  constructor
  · intro h
    unfold ofList at h
    split at h
    · cases h; rfl
    · cases h
  · rintro rfl
    unfold ofList
    split
    · rfl
    · rename_i h
      rw [firstRepeated?_eq_none_iff.2 ⟨r.distinct, by simp⟩] at h
      cases h

theorem ofList_eq_error_iff {ds : List (Descriptor τ)} {e : Rejection} :
    ofList ds = .error e ↔
      ∃ n, firstRepeated? [] (ds.map (·.name)) = some n ∧ e = .duplicateBackend n.text := by
  unfold ofList
  split
  · rename_i h; simp [h]
  · rename_i n h; simp [h, eq_comm]

end Roster

end BenchRoster
