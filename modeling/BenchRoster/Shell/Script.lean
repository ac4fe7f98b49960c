/-
# Shell scripts

The commands of a shell as a tree.  Words keep their parts, so that what is expanded and split into
fields is told apart from what was quoted.  The text of a script is given in octets.
-/

namespace BenchRoster.Shell

/-- What the value of a parameter is put to. -/
inductive Use where
  | value
  | length
  /-- The word instead of a value that is missing; `empty` values count as missing too. -/
  | orElse (empty : Bool)
  /-- The word instead of a value that is there. -/
  | ifPresent (empty : Bool)
  | orAssign (empty : Bool)
  | orFail (empty : Bool)
  /-- The value without an end of it that a pattern covers. -/
  | trim (atEnd longest : Bool)
  /-- What is written makes no sense. -/
  | meaningless
deriving DecidableEq, Repr

/-- What a redirection does with a descriptor. -/
inductive Direction where
  | input
  | output
  | append
  /-- For reading and writing. -/
  | update
  /-- To what another descriptor is connected to. -/
  | duplicate
  /-- From text in the script, the document of the given number. -/
  | document (number : Nat)
deriving DecidableEq, Repr

/-- A redirection; its word names a file or a descriptor, or is a document itself. -/
structure Redirection (ω : Type) where
  descriptor : Nat
  direction : Direction
  word : ω
deriving Repr

mutual

/-- A piece of a word.  What was `quoted` is not split into fields. -/
inductive Part where
  /-- Text outside of quotes. -/
  | text (cs : List Char)
  /-- Text between quotes or after a backslash. -/
  | literal (cs : List Char)
  /-- The value of a parameter, in some use that may have a word. -/
  | parameter (quoted : Bool) (name : List Char) (use : Use) (word : List Part)
  /-- The output of a command. -/
  | command (quoted : Bool) (c : Command)
  /-- The value of an expression. -/
  | arithmetic (quoted : Bool) (expression : List Part)

/-- A command.  The line of a command is the one that complaints name. -/
inductive Command where
  /-- Assignments, words and redirections. -/
  | simple (line : Nat) (assignments : List (String × List Part)) (words : List (List Part))
      (redirections : List (Redirection (List Part)))
  | nothing
  | sequence (a b : Command)
  | both (a b : Command)
  | either (a b : Command)
  | negate (a : Command)
  /-- Each one reads what the one before writes. -/
  | pipeline (commands : List Command)
  | branch (condition yes no : Command)
  /-- Repeats the body while the condition has the given outcome. -/
  | loop (expected : Bool) (condition body : Command)
  | forEach (line : Nat) (name : String) (words : List (List Part)) (body : Command)
  /-- Runs the body of the first arm with a pattern that covers the word. -/
  | select (line : Nat) (word : List Part) (arms : List Arm)
  | subshell (line : Nat) (body : Command) (redirections : List (Redirection (List Part)))
  /-- Is not waited for. -/
  | background (line : Nat) (body : Command)
  | redirected (line : Nat) (body : Command) (redirections : List (Redirection (List Part)))
  | define (line : Nat) (name : String) (body : Command)

/-- A body with the patterns that it is for. -/
inductive Arm where
  | mk (patterns : List (List Part)) (body : Command)

end

abbrev Word := List Part

instance : Inhabited Command := ⟨.nothing⟩

/-! ## Words -/

/-- The text of a word that is written without any quoting. -/
def plain? : Word → Option String
  | [] => some ""
  | .text cs :: ps => (plain? ps).map (String.ofList cs ++ ·)
  | _ :: _ => none

/-- Some part of the word was quoted. -/
def hasQuotes : Word → Bool
  | [] => false
  | .literal _ :: _ => true
  | _ :: ps => hasQuotes ps

/-- Puts neighbouring pieces of text together. -/
def joined : Word → Word
  | .text a :: ps =>
    match joined ps with
    | .text b :: qs => .text (a ++ b) :: qs
    | qs => .text a :: qs
  | .literal a :: ps =>
    match joined ps with
    | .literal b :: qs => .literal (a ++ b) :: qs
    | qs => .literal a :: qs
  | p :: ps => p :: joined ps
  | [] => []

def isNameStart (c : Char) : Bool := c.isAlpha || c == '_'

def isNameChar (c : Char) : Bool := c.isAlphanum || c == '_'

/-- A name of a variable. -/
def isName (s : String) : Bool :=
  match s.toList with
  | c :: cs => isNameStart c && cs.all isNameChar
  | [] => false

/-- The name and the value of an assignment. -/
def assignment? : Word → Option (String × Word)
  | .text cs :: ps =>
    let name := cs.takeWhile isNameChar
    match cs.drop name.length with
    | '=' :: value =>
      if isName (String.ofList name) then
        some (String.ofList name, if value.isEmpty then ps else .text value :: ps)
      else none
    | _ => none
  | _ => none

/-! ## Documents -/

/-- A redirection with its document, if it is to have one. -/
def Redirection.withDocument (documents : List Word) (r : Redirection Word) : Redirection Word :=
  match r.direction with
  | .document n => { r with word := (documents[n]?).getD [] }
  | _ => r

mutual

/-- A command with the documents that it reads from. -/
def Command.withDocuments (documents : List Word) : Command → Command
  | .simple line as ws rs => .simple line as ws (rs.map (·.withDocument documents))
  | .nothing => .nothing
  | .sequence a b => .sequence (a.withDocuments documents) (b.withDocuments documents)
  | .both a b => .both (a.withDocuments documents) (b.withDocuments documents)
  | .either a b => .either (a.withDocuments documents) (b.withDocuments documents)
  | .negate a => .negate (a.withDocuments documents)
  | .pipeline cs => .pipeline (commandsWithDocuments documents cs)
  | .branch c y n =>
    .branch (c.withDocuments documents) (y.withDocuments documents) (n.withDocuments documents)
  | .loop expected c b => .loop expected (c.withDocuments documents) (b.withDocuments documents)
  | .forEach line name ws b => .forEach line name ws (b.withDocuments documents)
  | .select line w arms => .select line w (armsWithDocuments documents arms)
  | .subshell line b rs =>
    .subshell line (b.withDocuments documents) (rs.map (·.withDocument documents))
  | .background line b => .background line (b.withDocuments documents)
  | .redirected line b rs =>
    .redirected line (b.withDocuments documents) (rs.map (·.withDocument documents))
  | .define line name b => .define line name (b.withDocuments documents)

def commandsWithDocuments (documents : List Word) : List Command → List Command
  | [] => []
  | c :: cs => c.withDocuments documents :: commandsWithDocuments documents cs

def armsWithDocuments (documents : List Word) : List Arm → List Arm
  | [] => []
  | .mk ps b :: arms => .mk ps (b.withDocuments documents) :: armsWithDocuments documents arms

end

end BenchRoster.Shell
