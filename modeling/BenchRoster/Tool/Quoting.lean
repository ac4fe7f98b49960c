/-
# Names in complaints

Programs quote what they complain about, so that it can be told from the words around it.  There
are two ways: as a shell would have to be given the name, and between apostrophes with escapes.
Texts are octets here, and octets beyond ASCII are never shown as they are.
-/
import BenchRoster.Text.Octets

namespace BenchRoster.Tool

/-- An octet that is shown as it is. -/
def isShown (c : Char) : Bool := ' ' ≤ c && c ≤ '~'

/-- The escape of an octet that cannot be shown. -/
def escapeOctet (c : Char) : List Char :=
  match c with
  | '\x07' => ['\\', 'a']
  | '\x08' => ['\\', 'b']
  | '\x09' => ['\\', 't']
  | '\x0a' => ['\\', 'n']
  | '\x0b' => ['\\', 'v']
  | '\x0c' => ['\\', 'f']
  | '\x0d' => ['\\', 'r']
  | c =>
    let n := c.toNat
    ['\\', Char.ofNat (48 + n / 64), Char.ofNat (48 + n / 8 % 8), Char.ofNat (48 + n % 8)]

/-- Between apostrophes, with escapes. -/
def quoted (s : String) : String :=
  let escape (c : Char) : List Char :=
    if c = '\'' ∨ c = '\\' then ['\\', c]
    else if isShown c then [c]
    else escapeOctet c
  "'" ++ String.ofList (s.toList.flatMap escape) ++ "'"

/-- An octet that means nothing to a shell, wherever it stands. -/
def isPlain (c : Char) : Bool :=
  c.isAlphanum || c == '%' || c == '+' || c == ',' || c == '-' || c == '.' || c == '/' ||
    c == '@' || c == ']' || c == '_'

/-- Inside of apostrophes a shell takes every octet that can be shown, but no apostrophe; the
others stand between apostrophes that a dollar sign precedes. -/
def shellBody : Bool → List Char → List Char
  | _, [] => ['\'']
  | escaping, c :: cs =>
    if isShown c then
      (if escaping then ['\'', '\''] else []) ++
        (if c = '\'' then ['\'', '\\', '\'', '\''] else [c]) ++ shellBody false cs
    else
      (if escaping then [] else ['\'', '$', '\'']) ++ escapeOctet c ++ shellBody true cs

/-- As a shell has to be given the text, always between quotes. -/
def shellQuoted (s : String) : String :=
  let cs := s.toList
  -- an apostrophe calls for double quotes where nothing else has a meaning there
  if cs.contains '\'' ∧ cs.all (fun c => isPlain c || c == '\'' || c == ' ' || c == ':') then
    "\"" ++ s ++ "\""
  else "'" ++ String.ofList (shellBody false cs)

/-- As a shell has to be given the text, with quotes only where they are needed. -/
def shellName (s : String) : String :=
  match s.toList with
  | [] => "''"
  | c :: cs =>
    let later (d : Char) : Bool := isPlain d || d == '#' || d == '~' || d == '\x7b' || d == '\x7d'
    let free := cs.all later &&
      (isPlain c || (!cs.isEmpty && (c == '\x7b' || c == '\x7d')))
    if free then s else shellQuoted s

example : shellName "a/b" = "a/b" ∧ shellName "a b" = "'a b'" ∧ shellName "it's" = "\"it's\"" ∧
    shellName "\xe9a" = "''$'\\351''a'" ∧ quoted "a\nb" = "'a\\nb'" := by decide +kernel

end BenchRoster.Tool
