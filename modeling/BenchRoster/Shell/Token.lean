/-
# Tokens of a shell

The text of a script with the line that has been come to, and the tokens into which it is cut.
A backslash at the end of a line joins it with the next one, almost everywhere.
-/
import BenchRoster.Shell.Script

namespace BenchRoster.Shell

/-- What a script cannot be read for. -/
structure SyntaxError where
  line : Nat
  message : String
deriving DecidableEq

/-- The symbols that redirect, by what they do. -/
inductive Token where
  | word (w : Word)
  /-- A word that has a meaning of its own where a command begins. -/
  | keyword (text : String)
  | operator (text : String)
  /-- A redirection without its word; in documents, tabs at the starts of lines may not count. -/
  | redirection (descriptor : Nat) (direction : Direction) (dropTabs : Bool)
  | newline
  | endOfText

instance : Inhabited Token := ⟨.endOfText⟩

/-- A token as it is named in a complaint. -/
def Token.describe : Token → String
  | word _ => "word"
  | keyword text => s!"\"{text}\""
  | operator text => s!"\"{text}\""
  | redirection _ _ _ => "redirection"
  | newline => "newline"
  | endOfText => "end of file"

def Token.isOperator (t : Token) (text : String) : Bool :=
  match t with
  | operator o => o == text
  | _ => false

def Token.isKeyword (t : Token) (text : String) : Bool :=
  match t with
  | keyword k => k == text
  | _ => false

def keywords : List String :=
  ["!", "case", "do", "done", "elif", "else", "esac", "fi", "for", "if", "in", "then", "until",
   "while", "\x7b", "\x7d"]

/-- The token cannot begin a command, but may come after a list of them. -/
def Token.endsList : Token → Bool
  | keyword k => ["do", "done", "elif", "else", "esac", "fi", "then", "\x7d"].contains k
  | operator o => o == ")" || o == ";;"
  | endOfText => true
  | _ => false

/-- A document that has been announced. -/
structure Announced where
  delimiter : List Char
  dropTabs : Bool
  /-- Parameters in the document are expanded. -/
  expanded : Bool

/-- The rest of a script. -/
structure Input where
  rest : List Char
  line : Nat := 1
  /-- A token that was read ahead. -/
  pushed : Option Token := none
  /-- The token that was read last. -/
  last : Token := .endOfText
  /-- The documents that begin after this line. -/
  announced : List Announced := []
  /-- The documents that were read. -/
  documents : List Word := []
  /-- Names that stand for other text where a command begins. -/
  aliases : List (String × String) := []
  /-- The names of which the text is being read, with what is left of the script behind it, and
  whether the next word is looked up too. -/
  inUse : List (String × Nat × Bool) := []
  /-- The next word is looked up. -/
  begins : Bool := false

abbrev Reader := EStateM SyntaxError Input

def failReading {α : Type} (message : String) : Reader α := fun s =>
  .error ⟨s.line, "Syntax error: " ++ message⟩ s

/-- The longest complaint about a token. -/
def maxComplaint : Nat := 63

/-- Complains about the last token, and names the one that should have come. -/
def unexpected {α : Type} (expected : Option Token) : Reader α := fun s =>
  let text :=
    match expected with
    | some t => s!"{s.last.describe} unexpected (expecting {t.describe})"
    | none => s!"{s.last.describe} unexpected"
  failReading (String.ofList (text.toList.take maxComplaint)) s

/-! ## Characters -/

/-- Drops line ends that do not count from the front. -/
def dropJoins (line : Nat) : List Char → Nat × List Char
  | '\\' :: '\n' :: cs => dropJoins (line + 1) cs
  | cs => (line, cs)

/-- The next character, whatever it is. -/
def peekRaw? : Reader (Option Char) := fun s => .ok s.rest.head? s

def takeRaw? : Reader (Option Char) := fun s =>
  match s.rest with
  | [] => .ok none s
  | c :: cs => .ok (some c) { s with rest := cs, line := if c = '\n' then s.line + 1 else s.line }

/-- Reads with a fault at the end of the text being found so many lines later. -/
def laterAtEnd {α : Type} (lines : Nat) (read : Reader α) : Reader α := fun s =>
  match read s with
  | .error e t => .error (if t.rest.isEmpty then { e with line := e.line + lines } else e) t
  | r => r

/-- Reads a text of its own, and leaves the present one as it is. -/
def readApart {α : Type} (text : List Char) (read : Reader α) : Reader (α × Input) := fun s =>
  match read { rest := text } with
  | .ok a t => .ok (a, t) s
  | .error e _ => .error e s

/-- The next character of joined lines. -/
def peek? : Reader (Option Char) := fun s =>
  let (line, rest) := dropJoins s.line s.rest
  .ok rest.head? { s with rest, line }

def take? : Reader (Option Char) := do
  discard peek?
  takeRaw?

/-- Takes the next character; a line end is not counted. -/
def takeUncounted? : Reader (Option Char) := do
  let c ← peek?
  modify fun s => { s with rest := s.rest.tail }
  return c

/-- Takes the next character if it is this one. -/
def takeIf (c : Char) : Reader Bool := do
  if (← peek?) = some c then
    discard takeRaw?
    return true
  else return false

/-- Takes characters while they are of some kind. -/
def takeWhile (p : Char → Bool) : Nat → Reader (List Char)
  | 0 => return []
  | n + 1 => do
    match ← peek? with
    | some c =>
      if p c then
        discard takeRaw?
        return c :: (← takeWhile p n)
      else return []
    | none => return []

/-- Takes characters of some kind, as many as there are. -/
def takeAll (p : Char → Bool) : Reader (List Char) := do takeWhile p (← get).rest.length

/-- The characters that end a word. -/
def endsWord (c : Char) : Bool :=
  c == ' ' || c == '\t' || c == '\n' || c == ';' || c == '&' || c == '|' || c == '<' || c == '>' ||
    c == '(' || c == ')'

/-- The characters of parameters that need no name. -/
def isSpecial (c : Char) : Bool :=
  c == '#' || c == '@' || c == '*' || c == '?' || c == '$' || c == '!' || c == '-' || c.isDigit

/-! ## Announced documents -/

/-- The next line goes on with this one. -/
def isJoined (line : List Char) : Bool :=
  (line.reverse.takeWhile (· == '\\')).length % 2 == 1

/-- The lines of a document up to its delimiter, how many lines were taken, and the text after them.
A line that the one before is joined with is not looked at. -/
def documentText (d : Announced) : Nat → Bool → List Char → List Char × Nat × List Char
  | 0, _, cs => ([], 0, cs)
  | _ + 1, _, [] => ([], 0, [])
  | n + 1, joined, cs =>
    let cs := if d.dropTabs ∧ !joined then cs.dropWhile (· == '\t') else cs
    let line := cs.takeWhile (· != '\n')
    let rest := cs.drop line.length
    if line = d.delimiter ∧ !joined then
      match rest with
      | [] => ([], 0, [])
      | _ :: rest => ([], 1, rest)
    else
      match rest with
      | [] => (line, 0, [])
      | _ :: rest =>
        let (text, lines, rest) := documentText d n (d.expanded && isJoined line) rest
        (line ++ '\n' :: text, lines + 1, rest)

/-! ## Raw tokens -/

/-- Reads the rest of a redirection after its first character. -/
def redirection (descriptor : Option Nat) (c : Char) : Reader Token := do
  let token (default : Nat) (d : Direction) : Reader Token :=
    return .redirection (descriptor.getD default) d false
  if c = '>' then
    if ← takeIf '>' then token 1 .append
    else if ← takeIf '|' then token 1 .output
    else if ← takeIf '&' then token 1 .duplicate
    else token 1 .output
  else if ← takeIf '<' then
    let dropTabs ← takeIf '-'
    return .redirection (descriptor.getD 0) (.document 0) dropTabs
  else if ← takeIf '&' then token 0 .duplicate
  else if ← takeIf '>' then token 0 .update
  else token 0 .input

/-- Reads an operator that begins with this character. -/
def operator (c : Char) : Reader Token := do
  let doubled (c : Char) : Reader Token := do
    let one := String.ofList [c]
    if ← takeIf c then return .operator (one ++ one) else return .operator one
  match c with
  | '&' => doubled '&'
  | '|' => doubled '|'
  | ';' => doubled ';'
  | c => return .operator (String.ofList [c])

/-- Skips blanks and comments. -/
def skipBlanks : Nat → Reader Unit
  | 0 => return
  | n + 1 => do
    match ← peek? with
    | some ' ' =>
      discard takeRaw?
      skipBlanks n
    | some '\t' =>
      discard takeRaw?
      skipBlanks n
    | some '#' =>
      modify fun s => { s with rest := s.rest.dropWhile (· != '\n') }
      skipBlanks n
    | _ => return

/-- The text of some name that asks for the next word to be looked up ends before a word that has
just been read. -/
def Input.goesOn (s : Input) (length : Nat) : Bool :=
  s.inUse.any fun a => a.2.2 && s.rest.length + length ≤ a.2.1

/-- Forgets the names of which the text ends before a word of the given length that has just been
read. -/
def Input.leaveAliases (s : Input) (length : Nat) : Input :=
  { s with inUse := s.inUse.filter fun a => a.2.1 < s.rest.length + length }

/-- Puts the text of another name in the place of a word that has just been read, unless the word
stood in that text. -/
def expandAlias (name : String) : Reader Bool := fun s =>
  let s := s.leaveAliases name.length
  match s.aliases.lookup name, s.inUse.any (·.1 == name) with
  | some text, false =>
    let goesOn : Bool :=
      match text.toList.getLast? with
      | some c => c == ' ' || c == '\t'
      | none => false
    .ok true { s with
      rest := text.toList ++ s.rest, inUse := (name, s.rest.length, goesOn) :: s.inUse }
  | _, _ => .ok false s

/-- Gives a token back, to be read again. -/
def pushBack (t : Token) : Reader Unit := modify fun s => { s with pushed := some t }

end BenchRoster.Shell
