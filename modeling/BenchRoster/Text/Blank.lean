/-
# Blank characters

The white space of the Unicode property `White_Space`, which decides when a locator, a search
directory or a flag counts as blank and what is cut from the ends of a text.  The main
statements say that trimming only drops blanks and leaves none at either end.
-/

namespace BenchRoster.Text

/-- A blank is a character of the Unicode property `White_Space`. -/
def isBlank (c : Char) : Bool :=
  let n := c.toNat
  (9 ≤ n && n ≤ 13) || n == 0x20 || n == 0x85 || n == 0xA0 || n == 0x1680 ||
    (0x2000 ≤ n && n ≤ 0x200A) || n == 0x2028 || n == 0x2029 || n == 0x202F ||
    n == 0x205F || n == 0x3000

/-- The characters after the leading blanks. -/
def dropBlanks (cs : List Char) : List Char := cs.dropWhile isBlank

/-- The characters without the blanks at both ends. -/
def trimmed (cs : List Char) : List Char :=
  (dropBlanks (dropBlanks cs).reverse).reverse

/-- The text without the blanks at both ends. -/
def trim (s : String) : String := String.ofList (trimmed s.toList)

/-- A text is blank when it holds nothing but blanks. -/
def blank (s : String) : Bool := s.toList.all isBlank

theorem dropBlanks_eq_nil_iff {cs : List Char} : dropBlanks cs = [] ↔ ∀ c ∈ cs, isBlank c := by
  induction cs with
  | nil => simp [dropBlanks]
  | cons c cs ih =>
    cases h : isBlank c <;> simp_all [dropBlanks]

/-- What is left starts with a character that is no blank. -/
theorem head_dropBlanks {cs : List Char} {c : Char} {r : List Char}
    (h : dropBlanks cs = c :: r) : isBlank c = false := by
  have := List.head?_dropWhile_not isBlank cs
  rw [show cs.dropWhile isBlank = c :: r from h] at this
  simpa using this

theorem dropBlanks_suffix (cs : List Char) : dropBlanks cs <:+ cs :=
  List.dropWhile_suffix isBlank

/-- Trimming leaves nothing exactly when there are only blanks. -/
theorem trimmed_eq_nil_iff {cs : List Char} : trimmed cs = [] ↔ ∀ c ∈ cs, isBlank c := by
  constructor
  · intro h
    rw [trimmed, List.reverse_eq_nil_iff, dropBlanks_eq_nil_iff] at h
    cases hd : dropBlanks cs with
    | nil => exact dropBlanks_eq_nil_iff.1 hd
    | cons c r =>
      have h1 := head_dropBlanks hd
      have h2 := h c (by simp [hd])
      simp [h1] at h2
  · intro h
    rw [trimmed, dropBlanks_eq_nil_iff.2 h]
    rfl

/-- Dropping the leading blanks leaves what stands behind some blanks. -/
theorem exists_dropBlanks (cs : List Char) :
    ∃ front, cs = front ++ dropBlanks cs ∧ ∀ c ∈ front, isBlank c :=
  ⟨cs.takeWhile isBlank, List.takeWhile_append_dropWhile.symm,
    List.all_eq_true.1 List.all_takeWhile⟩

/-- Behind what trimming leaves there are only blanks. -/
theorem exists_trimmed_append (cs : List Char) :
    ∃ back, dropBlanks cs = trimmed cs ++ back ∧ ∀ c ∈ back, isBlank c := by
  obtain ⟨back, hb, hback⟩ := exists_dropBlanks (dropBlanks cs).reverse
  refine ⟨back.reverse, ?_, fun c hc => hback c (List.mem_reverse.1 hc)⟩
  rw [trimmed, ← List.reverse_append, ← hb, List.reverse_reverse]

/-- Trimming takes blanks off both ends. -/
theorem exists_trimmed (cs : List Char) : ∃ front back, cs = front ++ trimmed cs ++ back ∧
    (∀ c ∈ front, isBlank c) ∧ ∀ c ∈ back, isBlank c := by
  obtain ⟨front, hf, hfront⟩ := exists_dropBlanks cs
  obtain ⟨back, hb, hback⟩ := exists_trimmed_append cs
  exact ⟨front, back, by rw [List.append_assoc, ← hb, ← hf], hfront, hback⟩

/-- Trimming leaves no blank at the front. -/
theorem head_trimmed {cs : List Char} {c : Char} (h : (trimmed cs).head? = some c) :
    isBlank c = false := by
  obtain ⟨back, hb, -⟩ := exists_trimmed_append cs
  obtain ⟨r, hr⟩ := List.head?_eq_some_iff.1 h
  rw [hr, List.cons_append] at hb
  exact head_dropBlanks hb

/-- Trimming leaves no blank at the end. -/
theorem getLast_trimmed {cs : List Char} {c : Char} (h : (trimmed cs).getLast? = some c) :
    isBlank c = false := by
  rw [trimmed, List.getLast?_reverse] at h
  obtain ⟨r, hr⟩ := List.head?_eq_some_iff.1 h
  exact head_dropBlanks hr

theorem length_trimmed_le (cs : List Char) : (trimmed cs).length ≤ cs.length := by
  obtain ⟨front, back, h, -, -⟩ := exists_trimmed cs
  have hl := congrArg List.length h
  simp only [List.length_append] at hl
  omega

end BenchRoster.Text
