/-
# Rejected definitions

A benchmark definition is refused before anything is loaded or timed.  Every reason for that
is a constructor of `Rejection`; its wording is the one function `Rejection.message`, which is
put together from the field, the offending value and the reason.
-/

namespace BenchRoster

/-- What is wrong with a backend or suite name. -/
inductive NameFault where
  | empty
  /-- More than 64 bytes; the number of bytes is kept. -/
  | tooLong (bytes : Nat)
  /-- A character that is no ASCII letter or digit, hyphen, underscore or full stop. -/
  | badCharacter
deriving DecidableEq, Repr

/-- The largest number of bytes in a name. -/
def maxNameBytes : Nat := 64

/-- The wording of a name fault. -/
def NameFault.reason : NameFault → String
  | .empty => "Name cannot be empty"
  | .tooLong bytes => s!"Name too long: {bytes} chars (max {maxNameBytes})"
  | .badCharacter => "Name must contain only ASCII alphanumerics, '-', '_' and '.'"

/-- What is wrong with a locator. -/
inductive LocatorFault where
  | blank
  | nulByte
deriving DecidableEq, Repr

/-- The wording of a locator fault. -/
def LocatorFault.reason : LocatorFault → String
  | .blank => "Locator cannot be blank"
  | .nulByte => "Locator cannot contain NUL bytes"

/-- The numeric settings of a comparison. -/
inductive Setting where
  | sampleSize
  | measurementTime
  | warmUpTime
deriving DecidableEq, Repr

namespace Setting

/-- The name of a setting in a configuration document. -/
def field : Setting → String
  | sampleSize => "sample_size"
  | measurementTime => "measurement_time_ms"
  | warmUpTime => "warm_up_time_ms"

/-- The least value of a setting. -/
def least : Setting → Nat
  | sampleSize => 10
  | measurementTime => 1
  | warmUpTime => 1

/-- The greatest value of a setting. -/
def greatest : Setting → Nat
  | sampleSize => 10000
  | measurementTime => 600000
  | warmUpTime => 600000

/-- The unit that is written after the bounds. -/
def unit : Setting → String
  | sampleSize => ""
  | measurementTime => "ms"
  | warmUpTime => "ms"

/-- The bounds of a setting include both ends. -/
def admits (s : Setting) (n : Nat) : Bool := s.least ≤ n && n ≤ s.greatest

theorem admits_iff {s : Setting} {n : Nat} : s.admits n ↔ s.least ≤ n ∧ n ≤ s.greatest := by
  simp [admits]

end Setting

/-- Why a definition is refused. -/
inductive Rejection where
  | backendName (value : String) (fault : NameFault)
  | suiteName (value : String) (fault : NameFault)
  | locator (value : String) (fault : LocatorFault)
  | setting (setting : Setting) (value : Nat)
  | blankSearchPath
  /-- The backend at this index has options and a blank flag to introduce them. -/
  | missingFlag (index : Nat)
  | duplicateBackend (name : String)
deriving DecidableEq, Repr

/-- The broad classes of rejection. -/
inductive RejectionKind where
  | invalidValue
  | missingField
  | duplicateName
deriving DecidableEq, Repr

namespace Rejection

/-- A NUL character shows as a backslash and a zero. -/
def showNul (s : String) : String :=
  String.ofList (s.toList.flatMap fun c => if c = '\x00' then ['\\', '0'] else [c])

def kind : Rejection → RejectionKind
  | missingFlag _ => .missingField
  | duplicateBackend _ => .duplicateName
  | _ => .invalidValue

/-- The field at fault. -/
def field : Rejection → String
  | backendName _ _ => "backend_name"
  | suiteName _ _ => "suite_name"
  | locator _ _ => "locator"
  | setting s _ => s.field
  | blankSearchPath => "search_paths"
  | missingFlag _ => "options_flag"
  | duplicateBackend _ => "name"

/-- The value at fault, as shown. -/
def value : Rejection → String
  | backendName v _ => v
  | suiteName v _ => v
  | locator v .blank => v
  | locator v .nulByte => showNul v
  | setting _ n => toString n
  | blankSearchPath => ""
  | missingFlag _ => ""
  | duplicateBackend n => n

/-- The rule that is broken. -/
def reason : Rejection → String
  | backendName _ f => f.reason
  | suiteName _ f => f.reason
  | locator _ f => f.reason
  | setting s _ => s!"Must be between {s.least} and {s.greatest}{s.unit}"
  | blankSearchPath => "Search paths cannot be blank"
  | missingFlag _ => "Required with options"
  | duplicateBackend _ => "Backend names are unique"

/-- The place of a missing field. -/
def context : Rejection → String
  | missingFlag index => s!"backend at index {index}"
  | _ => ""

/-- The text shown for a rejection. -/
def message (r : Rejection) : String :=
  match r.kind with
  | .invalidValue => s!"Invalid field value: {r.field} = {r.value} - {r.reason}"
  | .missingField => s!"Missing required field: {r.field} in {r.context}"
  | .duplicateName => s!"Duplicate backend name: {r.value}"

end Rejection

end BenchRoster
