/-
# Reading typed values

How each kind of value is read from a document.  A record may be written as an object, or as a list
of its values in order, of which some at the end may be missing.  A fault that concerns a record as
a whole is placed where the record ends.
-/
import BenchRoster.Format
import BenchRoster.Json.Reader

namespace BenchRoster.Json

/-- What stands at the front of the unread characters instead of the expected value. -/
def wrongType {α : Type} (expected : String) (c : Char) (r : List Char) : Except Fault α :=
  let found (x : Found) (rest : List Char) : Except Fault α :=
    .error ⟨.mismatch (.wrongType x expected), .at rest 0⟩
  let word (w : List Char) (x : Found) : Except Fault α :=
    match readWord w r with
    | .error f => .error f
    | .ok rest => found x rest
  let number (negative : Bool) (cs : List Char) : Except Fault α :=
    match readNumber negative cs with
    | .error f => .error f
    | .ok (n, rest) => found n.found rest
  if c = 'n' then word ['u', 'l', 'l'] .unit
  else if c = 't' then word ['r', 'u', 'e'] (.flag true)
  else if c = 'f' then word ['a', 'l', 's', 'e'] (.flag false)
  else if c = '-' then number true r
  else if c.isDigit then number false (c :: r)
  else if c = '"' then
    match readText r with
    | .error f => .error f
    | .ok (s, rest) => found (.text s) rest
  else if c = '[' then found .list (c :: r)
  else if c = '\x7b' then found .table (c :: r)
  else faultAhead .expectedValue (c :: r)

/-- A text. -/
def Reader.text : Reader String := fun cs =>
  match skipBlanks cs with
  | [] => faultAhead .eofInValue []
  | c :: r => if c = '"' then readText r else wrongType "a string" c r

/-- A truth value. -/
def Reader.flag : Reader Bool := fun cs =>
  match skipBlanks cs with
  | [] => faultAhead .eofInValue []
  | c :: r =>
    if c = 't' then (readWord ['r', 'u', 'e'] r).map (true, ·)
    else if c = 'f' then (readWord ['a', 'l', 's', 'e'] r).map (false, ·)
    else wrongType "a boolean" c r

/-- A null. -/
def Reader.null : Reader Unit := fun cs =>
  match skipBlanks cs with
  | [] => faultAhead .eofInValue []
  | c :: r => if c = 'n' then (readWord ['u', 'l', 'l'] r).map ((), ·) else wrongType "unit" c r

/-- The colon between a key and its value. -/
def readColon (cs : List Char) : Except Fault (List Char) :=
  match skipBlanks cs with
  | [] => faultAhead .eofInObject []
  | c :: r => if c = ':' then .ok r else faultAhead .expectedColon (c :: r)

/-- The word of a choice; an unknown one is placed after it. -/
def readChoiceWord {α : Type} (choices : List (String × α)) : Reader α := fun cs =>
  match Reader.text cs with
  | .error f => .error f
  | .ok (word, rest) =>
    match choices.lookup word with
    | some x => .ok (x, rest)
    | none =>
      .error ⟨.mismatch (.unknownChoice word (choiceWords choices)), .at rest 0⟩

/-- One of several words, alone or as the key of an object whose value is null. -/
def Reader.choice {α : Type} (choices : List (String × α)) : Reader α := fun cs =>
  match skipBlanks cs with
  | [] => faultAhead .eofInValue []
  | c :: r =>
    if c = '"' then readChoiceWord choices (c :: r)
    else if c = '\x7b' then do
      let (x, r) ← readChoiceWord choices r
      let r ← readColon r
      let (_, r) ← Reader.null r
      match skipBlanks r with
      | [] => faultHere .eofInObject []
      -- nothing may follow the one entry
      | d :: r => if d = '\x7d' then .ok (x, r) else faultHere .expectedValue (d :: r)
    else faultAhead .expectedValue (c :: r)

/-- A value or null. -/
def Reader.optional {α : Type} (read : Reader α) : Reader (Option α) := fun cs =>
  match skipBlanks cs with
  | 'n' :: r => (readWord ['u', 'l', 'l'] r).map (none, ·)
  | r => (read r).map fun x => (some x.1, x.2)

/-- Goes to the next key of an object, if there is one. -/
def nextKey (first : Bool) (cs : List Char) : Except Fault (Option String × List Char) :=
  let key (cs : List Char) : Except Fault (Option String × List Char) :=
    match cs with
    | [] => faultAhead .eofInValue []
    | c :: r =>
      if c = '"' then (readText r).map fun x => (some x.1, x.2)
      else if c = '\x7d' ∧ ¬ first then faultAhead .trailingComma (c :: r)
      else faultAhead .keyNotText (c :: r)
  match skipBlanks cs with
  | [] => faultAhead .eofInObject []
  | c :: r =>
    if c = '\x7d' then .ok (none, c :: r)
    else if first then key (c :: r)
    else if c = ',' then key (skipBlanks r)
    else faultAhead .expectedObjectEnd (c :: r)

/-- Goes to the next item of a list, if there is one. -/
def nextItem (first : Bool) (cs : List Char) : Except Fault (Bool × List Char) :=
  match skipBlanks cs with
  | [] => faultAhead .eofInList []
  | c :: r =>
    if c = ']' then .ok (false, c :: r)
    else if first then .ok (true, c :: r)
    else if c = ',' then
      match skipBlanks r with
      | [] => faultAhead .eofInValue []
      | d :: r' => if d = ']' then faultAhead .trailingComma (d :: r') else .ok (true, d :: r')
    else faultAhead .expectedListEnd (c :: r)

/-- The end of an object. -/
def endObject (cs : List Char) : Except Fault (List Char) :=
  match skipBlanks cs with
  | [] => faultAhead .eofInObject []
  | c :: r =>
    if c = '\x7d' then .ok r
    else if c = ',' then faultAhead .trailingComma (c :: r)
    else faultAhead .trailingCharacters (c :: r)

/-- The end of a list. -/
def endList (cs : List Char) : Except Fault (List Char) :=
  match skipBlanks cs with
  | [] => faultAhead .eofInList []
  | c :: r =>
    if c = ']' then .ok r
    else if c = ',' then
      match skipBlanks r with
      | d :: r' =>
        if d = ']' then faultAhead .trailingComma (d :: r')
        else faultAhead .trailingCharacters (d :: r')
      | [] => faultAhead .trailingCharacters []
    else faultAhead .trailingCharacters (c :: r)

/-- Where the end of an object is, for a fault inside it that has no place. -/
def pastObject (cs : List Char) : List Char :=
  match skipBlanks cs with
  | c :: r => if c = '\x7d' then r else c :: r
  | [] => []

/-- Where the end of a list is, for a fault inside it that has no place. -/
def pastList (cs : List Char) : List Char :=
  match skipBlanks cs with
  | c :: r => if c = ']' then r else if c = ',' then skipBlanks r else c :: r
  | [] => []

/-- Reads one entry of an object into a partial record. -/
def recordStep {π : Type} (fields : List (Field Reader π)) (s : Bool × π) (cs : List Char) :
    Except Fault (Option (Bool × π) × List Char) :=
  match nextKey s.1 cs with
  | .error f => .error f
  | .ok (none, rest) => .ok (none, rest)
  | .ok (some key, rest) =>
    match Field.find? fields key with
    | none => do
      let rest ← readColon rest
      let rest ← skipValue rest
      .ok (some (false, s.2), rest)
    | some field =>
      if field.seen s.2 then faultPending (.duplicateField key) rest
      else do
        let rest ← readColon rest
        let (add, rest) ← field.read rest
        .ok (some (false, add s.2), rest)

/-- Reads a list of values into a partial record. -/
def recordItems {π : Type} (fields : List (Field Reader π)) (first : Bool) (p : π)
    (cs : List Char) : Except Fault (π × List Char) :=
  match fields with
  | [] => .ok (p, cs)
  | field :: fields =>
    match nextItem first cs with
    | .error f => .error f
    | .ok (false, rest) => recordItems fields first p rest
    | .ok (true, rest) =>
      match field.read rest with
      | .error f => .error f
      | .ok (add, rest) => recordItems fields false (add p) rest

/-- Completes a partial record, or says which key is missing. -/
def completeRecord {π α : Type} (finish : π → Except String α) (p : π) (rest : List Char) :
    Except Fault (α × List Char) :=
  match finish p with
  | .ok x => .ok (x, rest)
  | .error key => faultPending (.missingField key) rest

/-- The entries of an object after its opening, as a record. -/
def objectRecord {π α : Type} (fields : List (Field Reader π)) (blank : π)
    (finish : π → Except String α) : Reader α := fun cs =>
  match repeatStep (recordStep fields) (true, blank) cs with
  | .error f => .error f
  | .ok (s, rest) => completeRecord finish s.2 rest

/-- The items of a list after its opening, as a record. -/
def listRecord {π α : Type} (fields : List (Field Reader π)) (blank : π)
    (finish : π → Except String α) : Reader α := fun cs =>
  match recordItems fields true blank cs with
  | .error f => .error f
  | .ok (p, rest) => completeRecord finish p rest

/-- A value in brackets: its end is looked for even if the value has a fault. -/
def bracketed {α : Type} (read : Reader α) (finish : List Char → Except Fault (List Char))
    (past : List Char → List Char) : Reader α := fun cs =>
  match read cs with
  -- a fault without a place is put where the brackets end
  | .error f => .error (f.settle past)
  | .ok (x, rest) =>
    match finish rest with
    | .error f => .error f
    | .ok rest => .ok (x, rest)

/-- A record, as an object or as a list. -/
def Reader.record {π α : Type} (name : String) (fields : List (Field Reader π)) (blank : π)
    (finish : π → Except String α) : Reader α := fun cs =>
  match skipBlanks cs with
  | [] => faultAhead .eofInValue []
  | c :: r =>
    if c = '[' then bracketed (listRecord fields blank finish) endList pastList r
    else if c = '\x7b' then bracketed (objectRecord fields blank finish) endObject pastObject r
    else wrongType s!"struct {name}" c r

/-- Reads one entry of a table. -/
def tableStep (s : Bool × Table) (cs : List Char) :
    Except Fault (Option (Bool × Table) × List Char) :=
  match nextKey s.1 cs with
  | .error f => .error f
  | .ok (none, rest) => .ok (none, rest)
  | .ok (some key, rest) => do
    let rest ← readColon rest
    let (value, rest) ← Reader.text rest
    .ok (some (false, s.2.insert key value), rest)

/-- A table from texts to texts. -/
def Reader.table : Reader Table := fun cs =>
  match skipBlanks cs with
  | [] => faultAhead .eofInValue []
  | c :: r =>
    if c = '\x7b' then
      let entries : Reader Table := fun cs =>
        (repeatStep tableStep (true, Table.empty) cs).map fun s => (s.1.2, s.2)
      bracketed entries endObject pastObject r
    else wrongType "a map" c r

instance : Format Reader where
  map f read cs := (read cs).map fun x => (f x.1, x.2)
  text := Reader.text
  flag := Reader.flag
  table := Reader.table
  choice := Reader.choice
  optional := Reader.optional
  record := Reader.record
  refine read check cs :=
    match read cs with
    | .error f => .error f
    | .ok (x, rest) =>
      match check x with
      | .ok y => .ok (y, rest)
      | .error r => faultPending (.rejected r) rest

/-- Reads a document that holds one value and nothing else. -/
def readDocument {α : Type} (read : Reader α) (text : String) : Except Fault α :=
  match read text.toList with
  | .error f => .error f
  | .ok (x, rest) =>
    match skipBlanks rest with
    | [] => .ok x
    | c :: r => faultAhead .trailingCharacters (c :: r)

end BenchRoster.Json
