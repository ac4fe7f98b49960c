/-
# Properties of characters

Finds the set that the name of a property stands for.  Names are compared loosely: the case of
letters, blanks, low lines, hyphens and a leading "is" do not count.
-/
import BenchRoster.Pattern.Form
import BenchRoster.Pattern.Property.Names

namespace BenchRoster.Pattern.Property

/-- What a name is compared by.  The name `isc` keeps its first letters, without which it would
stand for another property. -/
def looseName (name : String) : List Char :=
  let keep (cs : List Char) : List Char :=
    (cs.filter fun c => c.toNat < 128 && c != ' ' && c != '_' && c != '-').map Char.toLower
  match name.toList with
  | a :: b :: cs =>
    if a.toLower = 'i' ∧ b.toLower = 's' then
      let rest := keep cs
      if rest = ['c'] then ['i', 's', 'c'] else rest
    else keep (a :: b :: cs)
  | cs => keep cs

/-- Whether a name, compared loosely, is one of some names. -/
def isNamed (name : List Char) (names : List String) : Bool :=
  names.any fun n => looseName n == name

def find? (name : List Char) (entries : List Entry) : Option CharSet :=
  (entries.find? fun e => isNamed name e.names).map Entry.set

/-- A script without members that matter. -/
def otherScript : CharSet := .property [] ⟨900, 1500⟩ ⟨1300, 2400⟩

/-- A script, among those with members that matter and all others. -/
def script? (entries : List Entry) (name : List Char) : Option CharSet :=
  find? name entries <|> if otherScripts.any (isNamed name) then some otherScript else none

/-- The characters up to an age: among those that matter, all. -/
def age? (name : List Char) : Option CharSet :=
  if ages.any (isNamed name) then
    some (.property [(0, 0x10ffff)] ⟨8000, 16000⟩ ⟨8000, 16000⟩)
  else none

/-- The names of the properties whose values make sets, and the set of a value. -/
def valued : List (List String × (List Char → Option CharSet)) := [
  (["gc", "General_Category"], (find? · generalCategories)),
  (["sc", "Script"], script? asciiScripts),
  (["scx", "Script_Extensions"], script? asciiScriptExtensions),
  (["age", "Age"], age?),
  (["GCB", "Grapheme_Cluster_Break"], (find? · graphemeBreaks)),
  (["WB", "Word_Break"], (find? · wordBreaks)),
  (["SB", "Sentence_Break"], (find? · sentenceBreaks))]

/-- The names of general categories that are names of properties too, and stand for the former. -/
def categoriesFirst : List String := ["cf", "sc", "lc"]

/-- A name that a property has. -/
def isProperty (name : List Char) : Bool :=
  binary.any (fun e => isNamed name e.names) || isNamed name Property.named ||
    valued.any fun v => isNamed name v.1

/-- The set of a property that a character has or has not, of a general category, or of a script. -/
def ofName (name : List Char) : Except Flaw CharSet :=
  let property? :=
    if isProperty name ∧ ¬ isNamed name categoriesFirst then
      some ((find? name binary).elim (.error .propertyNotFound) .ok)
    else none
  match property?, find? name generalCategories <|> script? asciiScripts name with
  | some r, _ => r
  | none, some s => .ok s
  | none, none =>
    .error (if isNamed name emptyValues then .propertyValueNotFound else .propertyNotFound)

/-- The set of a value of a property. -/
def ofValue (name value : List Char) : Except Flaw CharSet :=
  match valued.find? fun v => isNamed name v.1 with
  | some v => (v.2 value).elim (.error .propertyValueNotFound) .ok
  | none => .error (if isProperty name then .propertyValueNotFound else .propertyNotFound)

/-- The set that a query stands for. -/
def set : PropertyQuery → Except Flaw CharSet
  | .named name => ofName (looseName name)
  | .valued name value => ofValue (looseName name) (looseName value)

/-- Decimal digits, blanks and the characters of words. -/
def ofShort : ShortSet → CharSet
  | .digit => ((find? ['n', 'd'] generalCategories).getD .digit)
  | .space => ((find? ['w', 's', 'p', 'a', 'c', 'e'] binary).getD .space)
  | .word => word.set

end BenchRoster.Pattern.Property
