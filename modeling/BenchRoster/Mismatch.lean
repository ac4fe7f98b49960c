/-
# Documents that do not fit

What can be wrong with a document once it can be read: a value of the wrong type, a word that is no
choice, a repeated or missing entry, a text that breaks a rule.  The wording is the same for all
formats, apart from how each writes a null and a floating point number.
-/
import BenchRoster.Decimal.Text
import BenchRoster.Rejection
import BenchRoster.Text.Quoted

namespace BenchRoster

/-- A value that stands where another is expected. -/
inductive Found where
  | unit
  | flag (value : Bool)
  | integer (value : Int)
  /-- An integer beyond 64 bits, which may have a sign or not. -/
  | wideInteger (value : Int)
  | float (value : Float64)
  | text (value : String)
  | list
  | table
deriving DecidableEq, Repr

/-- The two spellings in which formats differ. -/
structure Wording where
  unit : String
  float : Decimal.FloatStyle

/-- The description of a value in a message. -/
def Found.describe (w : Wording) : Found → String
  | .unit => w.unit
  | .flag b => s!"boolean `{b}`"
  | .integer n => s!"integer `{n}`"
  | .wideInteger n => s!"integer `{n}` as " ++ if 0 ≤ n then "u128" else "i128"
  | .float x => s!"floating point `{Decimal.floatText w.float x}`"
  | .text s => s!"string {Text.quoted s}"
  | .list => "sequence"
  | .table => "map"

/-- How a document fails to fit. -/
inductive Mismatch where
  | wrongType (found : Found) (expected : String)
  | wrongValue (found : Found) (expected : String)
  | unknownChoice (word : String) (choices : List String)
  | missingField (key : String)
  | duplicateField (key : String)
  | rejected (cause : Rejection)
deriving DecidableEq, Repr

namespace Mismatch

/-- A word between backticks. -/
def ticked (word : String) : String := s!"`{word}`"

/-- A list of choices in words. -/
def choiceText : List String → String
  | [] => "there are no variants"
  | [a] => s!"expected {ticked a}"
  | [a, b] => s!"expected {ticked a} or {ticked b}"
  | cs => "expected one of " ++ String.intercalate ", " (cs.map ticked)

/-- The text shown for a mismatch. -/
def message (w : Wording) : Mismatch → String
  | wrongType found expected => s!"invalid type: {found.describe w}, expected {expected}"
  | wrongValue found expected => s!"invalid value: {found.describe w}, expected {expected}"
  | unknownChoice word choices => s!"unknown variant {ticked word}, {choiceText choices}"
  | missingField key => s!"missing field {ticked key}"
  | duplicateField key => s!"duplicate field {ticked key}"
  | rejected cause => cause.message

end Mismatch

end BenchRoster
