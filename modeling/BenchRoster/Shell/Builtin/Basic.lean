/-
# Commands of the shell itself

A builtin is given its arguments, and answers its status.  Here are the options and the numbers that
its arguments may be.
-/
import BenchRoster.Shell.State

namespace BenchRoster.Shell

/-- A command of the shell itself. -/
abbrev Builtin := List String → Run Nat

namespace Builtin

/-- Reads the letters of an argument with options; some take what follows as their own argument. -/
def readLetters (plain taking : List Char) :
    List Char → List String → Run (List (Char × String) × List String)
  | [], args => return ([], args)
  | c :: cs, args => do
    if plain.contains c then
      let (os, args) ← readLetters plain taking cs args
      return ((c, "") :: os, args)
    else if taking.contains c then
      match cs, args with
      | [], [] => fail s!"No arg for -{String.ofList [c]} option"
      | [], a :: args => return ([(c, a)], args)
      | cs, args => return ([(c, String.ofList cs)], args)
    else fail s!"Illegal option -{String.ofList [c]}"

/-- Reads the options in front of the arguments. -/
def readOptionsUpTo (plain taking : List Char) :
    Nat → List String → Run (List (Char × String) × List String)
  | 0, args => return ([], args)
  | n + 1, args => do
    match args with
    | [] => return ([], [])
    | a :: rest =>
      match a.toList with
      | ['-', '-'] => return ([], rest)
      | '-' :: c :: cs =>
        let (os, rest) ← readLetters plain taking (c :: cs) rest
        let (more, rest) ← readOptionsUpTo plain taking n rest
        return (os ++ more, rest)
      | _ => return ([], args)

def readOptions (plain taking : List Char) (args : List String) :
    Run (List (Char × String) × List String) :=
  readOptionsUpTo plain taking (args.length + 1) args

/-- The largest number in an argument. -/
def maxNumber : Nat := 2147483647

/-- The number that an argument is. -/
def number (text : String) : Run Nat :=
  let cs := text.toList
  if cs ≠ [] ∧ cs.all Char.isDigit then
    match text.toNat? with
    | some n => if n ≤ maxNumber then return n else failNumber text
    | none => failNumber text
  else failNumber text

/-- Text between apostrophes; apostrophes stand between double quotes. -/
def quote (text : String) : String :=
  let rec go : Bool → List Char → List Char
    | inside, [] => if inside then ['\''] else ['"']
    | true, '\'' :: cs => '\'' :: '"' :: '\'' :: go false cs
    | true, c :: cs => c :: go true cs
    | false, '\'' :: cs => '\'' :: go false cs
    | false, c :: cs => '"' :: '\'' :: c :: go true cs
  String.ofList ('\'' :: go true text.toList)

example : quote "it's" = "'it'\"'\"'s'" ∧ quote "" = "''" ∧ quote "a'" = "'a'\"'\"" := by
  decide +kernel

end Builtin

end BenchRoster.Shell
