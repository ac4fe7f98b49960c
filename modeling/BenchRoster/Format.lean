/-
# Document formats

What options and configurations are read from: a format knows how to read a text, a truth value, a
table, one of several words, and a record of named entries.  A document type is described once,
over any format, and every format reads it by its own rules.
-/
import BenchRoster.Mismatch
import BenchRoster.Table

namespace BenchRoster

/-- An entry of a record: its key, whether a partial record has it already, and how to add it. -/
structure Field (m : Type → Type) (π : Type) where
  key : String
  seen : π → Bool
  read : m (π → π)

/-- A document format, given by its readers. -/
class Format (m : Type → Type) where
  map : {α β : Type} → (α → β) → m α → m β
  /-- A text. -/
  text : m String
  /-- A truth value. -/
  flag : m Bool
  /-- A table from texts to texts, a later entry for a key replacing an earlier one. -/
  table : m Table
  /-- One of several words. -/
  choice : {α : Type} → List (String × α) → m α
  /-- A value that may be absent or null. -/
  optional : {α : Type} → m α → m (Option α)
  /-- A record with the given name in messages, read into a partial record; entries with other keys
  are skipped and a repeated key is refused.  The last function completes the partial record or
  names a key that is missing. -/
  record : {π α : Type} → String → List (Field m π) → π → (π → Except String α) → m α
  /-- A value that must pass a check. -/
  refine : {α β : Type} → m α → (α → Except Rejection β) → m β

/-- The words of a choice. -/
def choiceWords {α : Type} (choices : List (String × α)) : List String := choices.map (·.1)

/-- The entry of a record with a given key. -/
def Field.find? {m : Type → Type} {π : Type} (fields : List (Field m π)) (key : String) :
    Option (Field m π) :=
  fields.find? (·.key == key)

end BenchRoster
