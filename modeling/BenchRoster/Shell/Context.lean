/-
# Where parts of words are read

What may stand in a word depends on the quotes and braces around it.  Here are the readers of those
parts that hold no commands: names of parameters and their use, and quoted text.
-/
import BenchRoster.Shell.Token

namespace BenchRoster.Shell

/-- What ends a row of parts. -/
inductive Ends where
  /-- Blanks and operators, which are left. -/
  | wordEnd
  | brace
  | doubleQuote
  /-- Two closing brackets, when no other ones are open. -/
  | expression (openBrackets : Nat)
  /-- The end of the text. -/
  | textEnd
deriving DecidableEq

/-- Where parts are read. -/
structure Context where
  ends : Ends
  /-- Text counts as quoted. -/
  quoted : Bool
  /-- The parts belong to a document. -/
  document : Bool := false

/-- A backslash before this character of quoted text is dropped. -/
def Context.dropsBackslash (k : Context) (c : Char) : Bool :=
  c == '\\' || c == '\x60' || c == '$' || (c == '"' && k.ends != .textEnd) ||
    (c == '\x7d' && k.ends == .brace)

/-- Text as a part. -/
def Context.text (k : Context) (cs : List Char) : Part := if k.quoted then .literal cs else .text cs

/-- The list of all arguments alone, which vanishes between quotes if there are none. -/
def isArguments : Word → Bool
  | [.parameter true ['@'] .value []] => true
  | _ => false

/-- What was read between quotes; even no text at all makes a field. -/
def quotedParts (ps : Word) : Word := if isArguments ps then ps else .literal [] :: ps

/-- The use that a character after the name of a parameter asks for. -/
def useOf? (empty : Bool) (c : Char) : Option Use :=
  match c with
  | '-' => some (.orElse empty)
  | '+' => some (.ifPresent empty)
  | '=' => some (.orAssign empty)
  | '?' => some (.orFail empty)
  | _ => none

/-- Reads the use of a parameter after its name.  A use has no word if the brace is closed. -/
def readUse : Reader (Use × Bool) := do
  match ← takeUncounted? with
  | some '\x7d' => return (.value, false)
  | some ':' =>
    match (← takeUncounted?).bind (useOf? true) with
    | some use => return (use, true)
    | none => return (.meaningless, true)
  | some '%' => return (.trim true (← takeIf '%'), true)
  | some '#' => return (.trim false (← takeIf '#'), true)
  | some c => return ((useOf? false c).getD .meaningless, true)
  | none => return (.meaningless, true)

/-- Reads the name of a parameter. -/
def readName (c : Char) : Reader (List Char) := do
  if isNameStart c then takeAll isNameChar
  else if c.isDigit then takeAll Char.isDigit
  else
    discard take?
    return [c]

/-- Reads what stands between braces up to the word: the name, its use, and whether there is a
word. -/
def readBraced : Reader (List Char × Use × Bool) := do
  match ← peek? with
  | none => return ([], .meaningless, true)
  | some '\x7d' => return ([], .meaningless, true)
  | some '#' =>
    discard takeUncounted?
    match ← peek? with
    | none => return (['#'], .meaningless, true)
    | some c =>
      if isNameStart c ∨ c.isDigit then
        let name ← readName c
        if ← takeIf '\x7d' then return (name, .length, false)
        else return (name, .meaningless, true)
      else
        -- the number of arguments, or the length of a special parameter
        let s ← get
        discard takeUncounted?
        if c ≠ '\x7d' ∧ (← peek?) = some '\x7d' then
          discard takeUncounted?
          return ([c], if isSpecial c then .length else .meaningless, false)
        else
          set s
          let (use, hasWord) ← readUse
          return (['#'], use, hasWord)
  | some c =>
    if isNameStart c ∨ isSpecial c then
      let name ← readName c
      let (use, hasWord) ← readUse
      return (name, use, hasWord)
    else
      discard takeUncounted?
      return ([], .meaningless, true)

/-- Reads text between apostrophes. -/
def readApostrophes : Reader (List Char) := fun s =>
  let cs := s.rest.takeWhile (· != '\'')
  let line := s.line + cs.count '\n'
  match s.rest.drop cs.length with
  | [] => failReading "Unterminated quoted string" { s with rest := [], line }
  | _ :: rest => .ok cs { s with rest, line }

/-- Reads up to a backquote; a backslash is dropped before a few characters. -/
def readBackquoted (quoted : Bool) : Nat → List Char → Reader (List Char)
  | 0, acc => return acc.reverse
  | n + 1, acc => do
    match ← take? with
    | none => failReading "EOF in backquote substitution"
    | some '\x60' => return acc.reverse
    | some '\\' =>
      match ← takeRaw? with
      | none => failReading "EOF in backquote substitution"
      | some c =>
        let drops := c == '\\' || c == '\x60' || c == '$' || (quoted && c == '"')
        readBackquoted quoted n (if drops then c :: acc else c :: '\\' :: acc)
    | some c => readBackquoted quoted n (c :: acc)

/-- The builtins that functions cannot take the names of. -/
def specialBuiltins : List String :=
  [".", ":", "break", "continue", "eval", "exec", "exit", "export", "local", "readonly", "return",
   "set", "shift", "times", "trap", "unset"]

/-- The direction of a redirection with its word: a document gets the next number. -/
def announce (descriptor : Nat) (d : Direction) (dropTabs : Bool) (w : Word) :
    Reader (Redirection Word) := do
  match d with
  | .document _ =>
    let s : Input ← get
    let delimiter : List Char := w.flatMap fun
      | .text cs => cs
      | .literal cs => cs
      | _ => []
    let number := s.documents.length + s.announced.length
    let document : Announced := ⟨delimiter, dropTabs, !hasQuotes w⟩
    set { s with announced := s.announced ++ [document] }
    return ⟨descriptor, .document number, []⟩
  | d => return ⟨descriptor, d, w⟩

/-- One command after the other. -/
def sequenceOf (before : Option Command) (c : Command) : Command :=
  match before with
  | none => c
  | some b => .sequence b c

/-- What ends a list of commands beside tokens that always do. -/
inductive ListKind where
  /-- A line end. -/
  | line
  /-- A closing token, but one command has to be there. -/
  | filled
  /-- A closing token. -/
  | any
deriving DecidableEq

end BenchRoster.Shell
