/-
# Options of programs

A program is given options and operands in any order.  An option is a letter after a hyphen, with
others behind it, or a word after two hyphens, of which a beginning is enough that no other word
has.  After two hyphens alone there are only operands.
-/

namespace BenchRoster.Tool

/-- Whether an option has an argument. -/
inductive Takes where
  | nothing
  | something
  | perhaps
deriving DecidableEq

/-- An option that a program knows. -/
structure Switch where
  /-- The letter that it is known by; one without a letter is known by its word alone. -/
  letter : Option Char
  word : String
  takes : Takes := .nothing

/-- The name by which a program asks for an option: its letter, or else its word. -/
def Switch.name (s : Switch) : String :=
  match s.letter with
  | some c => String.ofList [c]
  | none => s.word

/-- What a program is given. -/
structure Given where
  /-- The options in order, by name, with their arguments. -/
  options : List (String × Option String) := []
  operands : List String := []

namespace Given

def has (g : Given) (name : String) : Bool := g.options.any (·.1 == name)

/-- The argument that was given last. -/
def last? (g : Given) (name : String) : Option String :=
  (g.options.reverse.find? (·.1 == name)).bind (·.2)

/-- Puts an option before the others. -/
def addOption (o : String × Option String) (g : Given) : Given :=
  { g with options := o :: g.options }

/-- Puts an operand before the others. -/
def addOperand (a : String) (g : Given) : Given := { g with operands := a :: g.operands }

end Given

/-- The switches whose words begin like this; a whole word leaves no choice. -/
def Switch.named (switches : List Switch) (word : String) : List Switch :=
  match switches.filter (·.word == word) with
  | [] => switches.filter fun s => word.toList.isPrefixOf s.word.toList
  | exact => exact

/-- Reads letters of one argument.  The answer has the options and, if the last of them still lacks
its argument, its name. -/
def readLetters (switches : List Switch) :
    List Char → Except String (List (String × Option String) × Option (String × Char))
  | [] => .ok ([], none)
  | c :: cs =>
    match switches.find? (·.letter == some c) with
    | none => .error s!"invalid option -- '{String.ofList [c]}'"
    | some s =>
      match s.takes, cs with
      | .nothing, cs =>
        (readLetters switches cs).map fun (os, open?) => ((s.name, none) :: os, open?)
      | .perhaps, cs =>
        .ok ([(s.name, if cs.isEmpty then none else some (String.ofList cs))], none)
      | .something, [] => .ok ([], some (s.name, c))
      | .something, cs => .ok ([(s.name, some (String.ofList cs))], none)

/-- Reads a word with its argument.  The answer has the option or, if that still lacks its argument,
its name and word. -/
def readSwitch (switches : List Switch) (text : List Char) :
    Except String (String × Option String ⊕ String × String) :=
  let word := String.ofList (text.takeWhile (· != '='))
  let value : Option String :=
    match text.dropWhile (· != '=') with
    | [] => none
    | _ :: v => some (String.ofList v)
  match Switch.named switches word with
  | [] => .error s!"unrecognized option '--{String.ofList text}'"
  | [s] =>
    match s.takes, value with
    | .nothing, some _ => .error s!"option '--{s.word}' doesn't allow an argument"
    | .something, none => .ok (.inr (s.name, s.word))
    | _, v => .ok (.inl (s.name, v))
  | several =>
    let shown := "".intercalate (several.map fun s => s!" '--{s.word}'")
    .error s!"option '--{String.ofList text}' is ambiguous; possibilities:{shown}"

/-- Reads arguments.  If `mixed` is false the options end at the first operand. -/
def readArguments (switches : List Switch) (mixed : Bool) : List String → Except String Given
  | [] => .ok {}
  | a :: as =>
    match a.toList with
    | ['-', '-'] => .ok { operands := as }
    | '-' :: '-' :: text => do
      match ← readSwitch switches text, as with
      | .inl o, as => return (← readArguments switches mixed as).addOption o
      | .inr (name, _), v :: as =>
        return (← readArguments switches mixed as).addOption (name, some v)
      | .inr (_, word), [] => .error s!"option '--{word}' requires an argument"
    | '-' :: c :: cs => do
      match ← readLetters switches (c :: cs), as with
      | (os, none), as =>
        let g ← readArguments switches mixed as
        return { g with options := os ++ g.options }
      | (os, some (name, _)), v :: as =>
        let g ← readArguments switches mixed as
        return { g with options := os ++ (name, some v) :: g.options }
      | (_, some (_, letter)), [] =>
        .error s!"option requires an argument -- '{String.ofList [letter]}'"
    | _ =>
      if mixed then do return (← readArguments switches mixed as).addOperand a
      else .ok { operands := a :: as }

end BenchRoster.Tool
