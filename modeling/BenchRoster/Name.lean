/-
# Names and locators

A backend and a suite have a name of 1 to 64 bytes made of ASCII letters, digits, hyphen,
underscore and full stop.  A locator is any text that is not blank and holds no NUL; only
resolvers give it a meaning.  The three types carry these rules, so a value of one of them is
valid wherever it comes from.  The main statements say exactly which texts are accepted.
-/
import BenchRoster.Rejection
import BenchRoster.Text.Blank

namespace BenchRoster

/-- The characters of a name. -/
def isNameChar (c : Char) : Bool := c.isAlphanum || c == '-' || c == '_' || c == '.'

/-- The first rule of names that a text breaks: it is empty, too long, or has a bad character. -/
def nameFault? (s : String) : Option NameFault :=
  if s.toList = [] then some .empty
  else if maxNameBytes < s.utf8ByteSize then some (.tooLong s.utf8ByteSize)
  else if s.toList.all isNameChar then none
  else some .badCharacter

/-- A text breaks no rule of names when it has 1 to 64 bytes, all of them name characters. -/
theorem nameFault?_eq_none_iff {s : String} :
    nameFault? s = none ↔
      s.toList ≠ [] ∧ s.utf8ByteSize ≤ maxNameBytes ∧ ∀ c ∈ s.toList, isNameChar c := by
  unfold nameFault?
  split
  · simp_all
  · split
    · rename_i h
      simp only [reduceCtorEq, ne_eq, false_iff]
      exact fun h' => absurd h'.2.1 (Nat.not_le.2 h)
    · split <;> simp_all

/-- The first rule of locators that a text breaks: it is blank, or holds a NUL. -/
def locatorFault? (s : String) : Option LocatorFault :=
  if Text.blank s then some .blank
  else if s.toList.contains '\x00' then some .nulByte
  else none

theorem locatorFault?_eq_none_iff {s : String} :
    locatorFault? s = none ↔
      (∃ c ∈ s.toList, Text.isBlank c = false) ∧ '\x00' ∉ s.toList := by
  unfold locatorFault?
  split
  · simp_all [Text.blank]
  · split <;> simp_all [Text.blank]

/-- The name of a backend, which is also its identity inside a suite. -/
structure BackendName where
  text : String
  valid : nameFault? text = none
deriving DecidableEq

/-- The name of a suite. -/
structure SuiteName where
  text : String
  valid : nameFault? text = none
deriving DecidableEq

/-- Where the dependency of a backend is to be found. -/
structure Locator where
  text : String
  valid : locatorFault? text = none
deriving DecidableEq

namespace BackendName

/-- Checks the rules of names. -/
def ofString (s : String) : Except Rejection BackendName :=
  match h : nameFault? s with
  | none => .ok ⟨s, h⟩
  | some f => .error (.backendName s f)

/-- Names are ordered as their texts are, character by character. -/
protected def le (a b : BackendName) : Bool := decide (a.text ≤ b.text)

/-- The names in ascending order. -/
def sort (names : List BackendName) : List BackendName := names.mergeSort BackendName.le

theorem ofString_text (n : BackendName) : ofString n.text = .ok n := by
  unfold ofString
  split
  · rfl
  · rename_i h; rw [n.valid] at h; simp at h

theorem ofString_eq_ok_iff {s : String} {n : BackendName} : ofString s = .ok n ↔ n.text = s := by
  constructor
  · intro h
    unfold ofString at h
    split at h
    · cases h; rfl
    · cases h
  · rintro rfl
    exact ofString_text n

theorem ofString_eq_error_iff {s : String} {r : Rejection} :
    ofString s = .error r ↔ ∃ f, nameFault? s = some f ∧ r = .backendName s f := by
  unfold ofString
  split <;> simp_all [eq_comm]

end BackendName

namespace SuiteName

/-- Checks the rules of names. -/
def ofString (s : String) : Except Rejection SuiteName :=
  match h : nameFault? s with
  | none => .ok ⟨s, h⟩
  | some f => .error (.suiteName s f)

theorem ofString_text (n : SuiteName) : ofString n.text = .ok n := by
  unfold ofString
  split
  · rfl
  · rename_i h; rw [n.valid] at h; simp at h

theorem ofString_eq_ok_iff {s : String} {n : SuiteName} : ofString s = .ok n ↔ n.text = s := by
  constructor
  · intro h
    unfold ofString at h
    split at h
    · cases h; rfl
    · cases h
  · rintro rfl
    exact ofString_text n

theorem ofString_eq_error_iff {s : String} {r : Rejection} :
    ofString s = .error r ↔ ∃ f, nameFault? s = some f ∧ r = .suiteName s f := by
  unfold ofString
  split <;> simp_all [eq_comm]

end SuiteName

namespace Locator

/-- Checks the rules of locators. -/
def ofString (s : String) : Except Rejection Locator :=
  match h : locatorFault? s with
  | none => .ok ⟨s, h⟩
  | some f => .error (.locator s f)

theorem ofString_text (l : Locator) : ofString l.text = .ok l := by
  unfold ofString
  split
  · rfl
  · rename_i h; rw [l.valid] at h; simp at h

theorem ofString_eq_ok_iff {s : String} {l : Locator} : ofString s = .ok l ↔ l.text = s := by
  constructor
  · intro h
    unfold ofString at h
    split at h
    · cases h; rfl
    · cases h
  · rintro rfl
    exact ofString_text l

theorem ofString_eq_error_iff {s : String} {r : Rejection} :
    ofString s = .error r ↔ ∃ f, locatorFault? s = some f ∧ r = .locator s f := by
  unfold ofString
  split <;> simp_all [eq_comm]

end Locator

end BenchRoster
