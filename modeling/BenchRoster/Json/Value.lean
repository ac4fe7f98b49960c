/-
# Documents as values, and how they are written

A tree of nulls, truth values, numbers, texts, lists and objects, with the text of each: compact,
or indented with one entry per line.
-/

namespace BenchRoster.Json

/-- A number as it is written: an optional sign, the whole part, the digits after the point, and the
exponent with its sign. -/
structure Number where
  negative : Bool
  whole : Nat
  fraction : List (Fin 10)
  exponent : Option Int
deriving DecidableEq

/-- A document. -/
inductive Value where
  | null
  | flag (b : Bool)
  | number (n : Number)
  | text (s : String)
  | list (items : List Value)
  | object (members : List (String × Value))

/-- One character inside a quoted text: quotes, backslashes and controls are escaped. -/
def quoteChar (c : Char) : List Char :=
  if c = '"' then ['\\', '"']
  else if c = '\\' then ['\\', '\\']
  else if c = '\x08' then ['\\', 'b']
  else if c = '\x0c' then ['\\', 'f']
  else if c = '\n' then ['\\', 'n']
  else if c = '\r' then ['\\', 'r']
  else if c = '\t' then ['\\', 't']
  else if c.toNat < 0x20 then
    ['\\', 'u', '0', '0', Nat.digitChar (c.toNat / 16), Nat.digitChar (c.toNat % 16)]
  else [c]

/-- A text between quotes. -/
def quote (cs : List Char) : List Char := '"' :: cs.flatMap quoteChar ++ ['"']

/-- A text between quotes, as a string. -/
def quoteString (s : String) : String := String.ofList (quote s.toList)

/-- The digits of a number. -/
def Number.render (n : Number) : List Char :=
  (if n.negative then ['-'] else []) ++ Nat.toDigits 10 n.whole ++
    (if n.fraction = [] then [] else '.' :: n.fraction.map fun d => Char.ofNat (48 + d.val)) ++
    match n.exponent with
    | none => []
    | some e => 'e' :: (toString e).toList

/-- A line break followed by two spaces for each level. -/
def newline (level : Nat) : List Char := '\n' :: List.replicate (2 * level) ' '

/-- Puts commas between pieces. -/
def commas : List (List Char) → List Char
  | [] => []
  | [p] => p
  | p :: q :: ps => p ++ ',' :: commas (q :: ps)

namespace Value

mutual

/-- The text of a document without blanks. -/
def render : Value → List Char
  | null => ['n', 'u', 'l', 'l']
  | flag true => ['t', 'r', 'u', 'e']
  | flag false => ['f', 'a', 'l', 's', 'e']
  | number n => n.render
  | text s => quote s.toList
  | list items => '[' :: commas (renderItems items) ++ [']']
  | object members => '\x7b' :: commas (renderMembers members) ++ ['\x7d']

def renderItems : List Value → List (List Char)
  | [] => []
  | v :: vs => render v :: renderItems vs

def renderMembers : List (String × Value) → List (List Char)
  | [] => []
  | (k, v) :: ms => (quote k.toList ++ ':' :: render v) :: renderMembers ms

end

mutual

/-- The text of a document, indented by two spaces for each level. -/
def pretty (level : Nat) : Value → List Char
  | null => ['n', 'u', 'l', 'l']
  | flag true => ['t', 'r', 'u', 'e']
  | flag false => ['f', 'a', 'l', 's', 'e']
  | number n => n.render
  | text s => quote s.toList
  | list [] => ['[', ']']
  | list (v :: vs) =>
    '[' :: commas (prettyItems (level + 1) (v :: vs)) ++ newline level ++ [']']
  | object [] => ['\x7b', '\x7d']
  | object (m :: ms) =>
    '\x7b' :: commas (prettyMembers (level + 1) (m :: ms)) ++ newline level ++ ['\x7d']

def prettyItems (level : Nat) : List Value → List (List Char)
  | [] => []
  | v :: vs => (newline level ++ pretty level v) :: prettyItems level vs

def prettyMembers (level : Nat) : List (String × Value) → List (List Char)
  | [] => []
  | (k, v) :: ms =>
    (newline level ++ quote k.toList ++ ':' :: ' ' :: pretty level v) :: prettyMembers level ms

end

/-- The indented text of a document. -/
def prettyString (v : Value) : String := String.ofList (pretty 0 v)

end Value

end BenchRoster.Json
