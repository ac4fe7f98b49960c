/-
# Names and locators as texts

A backend name, a suite name and a locator are texts that obey some rules.  The three are handed
over as texts: they are made of one by the check of their rules, directly or when a document is
read, and they are shown, written and given back as it.
-/
import BenchRoster.Format
import BenchRoster.Json.Value
import BenchRoster.Name

namespace BenchRoster

/-- A type of texts that obey some rules.  Such a value is shown as its text. -/
class CheckedText (ν : Type) extends ToString ν where
  /-- The text. -/
  text : ν → String
  /-- Checks the rules. -/
  ofString : String → Except Rejection ν
  ofString_eq_ok_iff {s : String} {x : ν} : ofString s = .ok x ↔ text x = s
  toString := text
  toString_eq (x : ν) : toString x = text x := by intros; rfl

instance : CheckedText BackendName where
  text := BackendName.text
  ofString := BackendName.ofString
  ofString_eq_ok_iff := BackendName.ofString_eq_ok_iff

instance : CheckedText SuiteName where
  text := SuiteName.text
  ofString := SuiteName.ofString
  ofString_eq_ok_iff := SuiteName.ofString_eq_ok_iff

instance : CheckedText Locator where
  text := Locator.text
  ofString := Locator.ofString
  ofString_eq_ok_iff := Locator.ofString_eq_ok_iff

namespace CheckedText

variable {ν : Type} [CheckedText ν]

/-- The conversion from a text checks it. -/
def convert (s : String) : Except Rejection ν := ofString s

/-- In a document a value is a text that must pass the check. -/
def reader {m : Type → Type} [Format m] : m ν := Format.refine Format.text ofString

/-- The JSON text of a value. -/
def json (x : ν) : String := Json.quoteString (text x)

end CheckedText

end BenchRoster
