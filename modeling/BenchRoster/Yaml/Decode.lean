/-
# Reading typed values from a document

How each kind of value is read from a tree.  A mismatch is placed once, at the innermost value whose
reading failed, with the path of keys and indices that leads there.  Aliases are followed, but not
without limit.
-/
import BenchRoster.Format
import BenchRoster.Yaml.Document
import BenchRoster.Yaml.Plain

namespace BenchRoster.Yaml

/-- The way from the root of a document to a value. -/
inductive Path where
  | root
  | item (parent : Path) (index : Nat)
  | entry (parent : Path) (key : String)
  /-- The value of an entry whose key is no scalar. -/
  | hidden (parent : Path)
deriving DecidableEq, Repr

namespace Path

/-- What is written before a key. -/
def lead : Path → String → String
  | .root, _ => ""
  | _, text => text ++ "."

def text : Path → String
  | .root => "."
  | .item p i => s!"{p.text}[{i}]"
  | .entry p k => lead p p.text ++ k
  | .hidden p => lead p p.text ++ "?"

end Path

/-- Why a document cannot be read. -/
inductive Failure where
  | broken (b : Breakage)
  /-- There is no value at all. -/
  | noValue
  | tooManyAliases
  | anotherDocument
  /-- A value does not fit; the place is added once. -/
  | mismatch (m : Mismatch) (place : Option (Mark × Path))
deriving DecidableEq, Repr

/-- The text shown for a failure. -/
def Failure.message : Failure → String
  | .broken b => b.message
  | .noValue => "EOF while parsing a value"
  | .tooManyAliases => "repetition limit exceeded"
  | .anotherDocument =>
    "deserializing from YAML containing more than one document is not supported"
  | .mismatch m none => m.message wording
  | .mismatch m (some (mark, path)) =>
    (if path = .root then "" else path.text ++ ": ") ++ m.message wording ++ mark.suffix

/-- What reading a value depends on. -/
structure Scope where
  document : Document
  path : Path

/-- Reads a value from a node.  The number counts the aliases followed so far. -/
def Decode (α : Type) : Type := Scope → Node → Nat → Except Failure (α × Nat)

/-- Places a mismatch that has no place yet. -/
def Failure.placed (mark : Mark) (path : Path) : Failure → Failure
  | .mismatch m none => .mismatch m (some (mark, path))
  | f => f

namespace Decode

def placed {α : Type} (mark : Mark) (scope : Scope) (r : Except Failure α) : Except Failure α :=
  r.mapError (Failure.placed mark scope.path)

/-- What stands for a value where the text is cut off. -/
def cutOff {α : Type} (scope : Scope) : Except Failure α :=
  match scope.document.breakage with
  | some b => .error (.broken b)
  | none => .error .noValue

/-- How many times aliases may be followed for each event of the document. -/
def aliasLimit : Nat := 100

/-- The value that an alias stands for. -/
def target (scope : Scope) (id jumps : Nat) : Except Failure (Node × Nat) :=
  if scope.document.size * aliasLimit < jumps + 1 then .error .tooManyAliases
  else
    match scope.document.targets.lookup id with
    | some n => .ok (n, jumps + 1)
    | none => .error .noValue

/-- Reads a value that is no alias: the mark of the value is that of the node. -/
abbrev Direct (α : Type) : Type := Scope → Node → Nat → Except Failure (α × Nat)

def markOf : Node → Mark
  | .scalar _ m => m
  | .reference _ m => m
  | .sequence _ m _ => m
  | .mapping _ m _ => m
  | .void => .start
  | .cut => .start

/-- Follows an alias and places mismatches at the value and at the alias. -/
def following {α : Type} (read : Direct α) : Decode α := fun scope node jumps =>
  placed (markOf node) scope <|
    match node with
    | .reference id _ => do
      let (n, jumps) ← target scope id jumps
      placed (markOf n) scope (read scope n jumps)
    | n => read scope n jumps

/-- The mismatch of a node that is not what is expected. -/
def wrongType {α : Type} (scope : Scope) (expected : String) : Node → Except Failure α
  | .scalar s _ => .error (.mismatch (s.mismatch expected) none)
  | .sequence _ _ _ => .error (.mismatch (.wrongType .list expected) none)
  | .mapping _ _ _ => .error (.mismatch (.wrongType .table expected) none)
  | .cut => cutOff scope
  | _ => .error .noValue

/-- The text of any scalar. -/
def textAs (expected : String) : Decode String := following fun scope node jumps =>
  match node with
  | .scalar s _ => .ok (s.text, jumps)
  | n => wrongType scope expected n

def text : Decode String := textAs "a string"

/-- A scalar outside of quotes that a reading accepts. -/
def bare {α : Type} (tag : TagText) (expected : String) (read : String → Option α) : Decode α :=
  following fun scope node jumps =>
    match node with
    | .scalar s _ =>
      match if s.bare tag then read s.text else none with
      | some x => .ok (x, jumps)
      | none => wrongType scope expected node
    | n => wrongType scope expected n

/-- A truth value. -/
def flag : Decode Bool := bare flagTag "a boolean" flag?

/-- A natural number of 64 bits; the words name its type in messages. -/
def natural (expected : String) : Decode Nat :=
  bare integerTag expected fun s => natural? max64 s.toList

/-- Leaves a value unread; aliases in it are not followed. -/
def skip (scope : Scope) (node : Node) : Except Failure Unit :=
  if node.whole then .ok () else cutOff scope

/-- Nothing, or a null, or a value. -/
def optional {α : Type} (read : Decode α) : Decode (Option α) := fun scope node jumps =>
  let direct (n : Node) (jumps : Nat) : Except Failure (Option α × Nat) :=
    let value : Except Failure (Option α × Nat) :=
      (read scope n jumps).map fun x => (some x.1, x.2)
    match n with
    | .void => .ok (none, jumps)
    | .scalar s _ =>
      if s.style ≠ .plain then value
      else if s.tag = some nullTag then
        if isNull s.text then .ok (none, jumps)
        else .error (.mismatch (.wrongValue (.text s.text) "null") none)
      else if s.tag.isNone ∧ (s.text.isEmpty ∨ isNull s.text) then .ok (none, jumps)
      else value
    | _ => value
  match node with
  | .reference id _ => do
    let (n, jumps) ← target scope id jumps
    direct n jumps
  | n => direct n jumps

/-- The items of a sequence, from the given index on. -/
def items {α : Type} (read : Decode α) (scope : Scope) (index jumps : Nat) :
    List Node → Except Failure (List α × Nat)
  | [] => .ok ([], jumps)
  | n :: ns => do
    let (x, jumps) ← read { scope with path := .item scope.path index } n jumps
    let (xs, jumps) ← items read scope (index + 1) jumps ns
    .ok (x :: xs, jumps)

/-- A sequence. -/
def list {α : Type} (read : Decode α) : Decode (List α) := following fun scope node jumps =>
  match node with
  | .sequence _ _ ns => items read scope 0 jumps ns
  | .void => .ok ([], jumps)
  | .scalar s _ => if s.isVoid then .ok ([], jumps) else wrongType scope "a sequence" node
  | n => wrongType scope "a sequence" n

/-- The scope of an entry's value. -/
def entryScope (scope : Scope) : Node → Scope
  | .scalar s _ => { scope with path := .entry scope.path s.text }
  | _ => { scope with path := .hidden scope.path }

/-- Reads the entries of a mapping one after the other into a partial result. -/
def entries {π : Type} (key : Decode String)
    (add : Scope → String → π → Node → Nat → Except Failure (π × Nat)) (scope : Scope) (p : π)
    (jumps : Nat) : List (Node × Node) → Except Failure (π × Nat)
  | [] => .ok (p, jumps)
  | (k, v) :: es => do
    let (name, jumps) ← key scope k jumps
    let (p, jumps) ← add (entryScope scope k) name p v jumps
    entries key add scope p jumps es

/-- A mapping, whose entries are read into a partial result that is then completed. -/
def mapping {π α : Type} (expected : String) (key : Decode String)
    (add : Scope → String → π → Node → Nat → Except Failure (π × Nat)) (blank : π)
    (finish : π → Except Mismatch α) : Decode α := following fun scope node jumps =>
  let done (p : π) (jumps : Nat) : Except Failure (α × Nat) :=
    match finish p with
    | .ok x => .ok (x, jumps)
    | .error m => .error (.mismatch m none)
  match node with
  | .mapping _ _ es => do
    let (p, jumps) ← entries key add scope blank jumps es
    done p jumps
  | .void => done blank jumps
  | .scalar s _ => if s.isVoid then done blank jumps else wrongType scope expected node
  | n => wrongType scope expected n

/-- A table from texts to texts. -/
def table : Decode Table :=
  mapping "a map" text
    (fun scope key t v jumps => do
      let (value, jumps) ← text scope v jumps
      .ok (t.insert key value, jumps))
    Table.empty .ok

/-- A record. -/
def record {π α : Type} (name : String) (fields : List (Field Decode π)) (blank : π)
    (finish : π → Except String α) : Decode α :=
  mapping s!"struct {name}" (textAs "field identifier")
    (fun scope key p v jumps =>
      match Field.find? fields key with
      -- the value of an unknown key must be there, but may be anything
      | none => (skip scope v).map fun _ => (p, jumps)
      | some field =>
        if field.seen p then .error (.mismatch (.duplicateField key) none)
        else do
          let (add, jumps) ← field.read scope v jumps
          .ok (add p, jumps))
    blank fun p => (finish p).mapError .missingField

/-- The value after a tag that has named a choice: a null, or nothing. -/
def unitAfterTag : Decode Unit := following fun scope node jumps =>
  match node with
  | .scalar s _ =>
    if s.style = .plain ∧ (s.text.isEmpty ∨ isNull s.text) then .ok ((), jumps)
    else .error (.mismatch (.wrongValue (.text s.text) "null") none)
  | .void => .ok ((), jumps)
  | n => wrongType scope "unit" n

/-- The tag of a node. -/
def tagOf : Node → Option TagText
  | .scalar s _ => s.tag
  | .sequence t _ _ => t
  | .mapping t _ _ => t
  | _ => none

/-- The choice that a word names. -/
def named {α : Type} (choices : List (String × α)) (word : String) : Except Failure α :=
  match choices.lookup word with
  | some x => .ok x
  | none => .error (.mismatch (.unknownChoice word (choiceWords choices)) none)

/-- One of several words, or a null with the word as its tag. -/
def choice {α : Type} (choices : List (String × α)) : Decode α := fun scope node jumps =>
  let direct (n : Node) (jumps : Nat) : Except Failure (α × Nat) :=
    match ownTag? (tagOf n), n with
    | some word, _ => do
      let x ← named choices word
      let ((), jumps) ← unitAfterTag scope n jumps
      .ok (x, jumps)
    | none, .scalar s mark =>
      placed mark scope ((named choices s.text).map (·, jumps))
    | none, n => placed (markOf n) scope (wrongType scope "a YAML tag starting with '!'" n)
  match node with
  | .reference id mark => placed mark scope do
    let (n, jumps) ← target scope id jumps
    direct n jumps
  | n => direct n jumps

/-- A value that must pass a check; what the check says has no place. -/
def refine {α β : Type} (read : Decode α) (check : α → Except Rejection β) : Decode β :=
  fun scope node jumps =>
    match read scope node jumps with
    | .error f => .error f
    | .ok (x, jumps) =>
      match check x with
      | .ok y => .ok (y, jumps)
      | .error r => .error (.mismatch (.rejected r) none)

end Decode

instance : Format Decode where
  map f read scope node jumps := (read scope node jumps).map fun x => (f x.1, x.2)
  text := Decode.text
  flag := Decode.flag
  table := Decode.table
  choice := Decode.choice
  optional := Decode.optional
  record := Decode.record
  refine := Decode.refine

/-- What is wrong with a document besides its values: its text is cut off, or it is not the only
one. -/
def Document.checkEnd (d : Document) : Except Failure Unit :=
  match d.breakage with
  | some b => .error (.broken b)
  | none => if d.more then .error .anotherDocument else .ok ()

/-- Reads a value from a document.  What is wrong with a value comes before what is wrong with the
text after it, and that before a further document.  A check of the whole value, whose outcome has no
place, comes last. -/
def Document.read {α : Type} (d : Document) (read : Decode α) : Except Failure α :=
  match read ⟨d, .root⟩ d.root 0 with
  | .error (.mismatch (.rejected r) none) => do
    d.checkEnd
    .error (.mismatch (.rejected r) none)
  | .error f => .error f
  | .ok (x, _) => do
    d.checkEnd
    .ok x

/-- Reads a text that holds one document. -/
def readDocument {α : Type} (read : Decode α) (s : String) : Except Failure α :=
  (Document.ofString s).read read

end BenchRoster.Yaml
