/-
# Writing arguments

Arguments are written as they are, with escapes resolved, or by a format.
-/
import BenchRoster.Tool.Basic
import BenchRoster.Tool.Format

namespace BenchRoster.Tool

namespace Echo

/-! ## As a shell writes its arguments -/

/-- Writes arguments with blanks between them and with an ending; one that stops the writing is the
last. -/
def shellWords (ending : List Char) : List String → List Char
  | [] => ending
  | a :: as =>
    match Format.expand .shell (a.length + 1) a.toList with
    | none => []
    | some (cs, true) => cs
    | some (cs, false) => if as.isEmpty then cs ++ ending else cs ++ ' ' :: shellWords ending as

/-- What a shell writes for its arguments: `-n` leaves out the line feed. -/
def shell (args : List String) : List Char :=
  match args with
  | "-n" :: args => shellWords [] args
  | args => shellWords ['\n'] args

/-! ## As the program writes its arguments -/

/-- Which options an argument is made of, if it is made of options. -/
def options? (a : String) : Option (List Char) :=
  match a.toList with
  | '-' :: c :: cs => if (c :: cs).all ['n', 'e', 'E'].contains then some (c :: cs) else none
  | _ => none

/-- The options in front, and the arguments after them. -/
def readOptions : List String → List Char × List String
  | [] => ([], [])
  | a :: as =>
    match options? a with
    | some os => (os ++ (readOptions as).1, (readOptions as).2)
    | none => ([], a :: as)

/-- Text with its escapes resolved, and whether the writing is stopped. -/
def expand : Nat → List Char → List Char × Bool
  | 0, _ => ([], false)
  | _ + 1, [] => ([], false)
  | n + 1, '\\' :: c :: cs =>
    if c = 'c' then ([], true)
    else
      let (here, rest) : List Char × List Char :=
        if Format.isOctal c then
          let skip := c = '0' ∧ (cs.head?.map Format.isOctal).getD false
          let (o, rest) := Format.takeOctet 8 3 (if skip then cs else c :: cs)
          ([o], rest)
        else if c = 'x' ∧ ((cs.head?.bind (Text.digit? 16))).isSome then
          let (o, rest) := Format.takeOctet 16 2 cs
          ([o], rest)
        else
          match Format.escape? c with
          | some o => ([o], cs)
          | none => (['\\', c], cs)
      let (more, stop) := expand n rest
      (here ++ more, stop)
  | n + 1, c :: cs =>
    let (more, stop) := expand n cs
    (c :: more, stop)

end Echo

/-- Writes its arguments with blanks between them. -/
def echo : Tool := fun _ args => do
  let (options, words) := Echo.readOptions args
  let escapes := (options.filter (· != 'n')).getLast? == some 'e'
  let text := (" ".intercalate words).toList
  let (cs, stop) := if escapes then Echo.expand (text.length + 1) text else (text, false)
  let ending : List Char := if stop || options.contains 'n' then [] else ['\n']
  putBytes (Octets.toBytes (cs ++ ending))
  return 0

/-- Writes its arguments by a format. -/
def printf : Tool := fun program args => do
  let args :=
    match args with
    | "--" :: rest => rest
    | args => args
  match args with
  | [] =>
    complainOfUse program "missing operand"
    return 1
  | format :: args =>
    let o := Format.run .program format args
    o.events.forM fun
      | .written cs => putBytes (Octets.toBytes cs)
      | .complaint text => complain program text
    match o.failure, o.unused with
    | some text, _ =>
      complain program text
      return 1
    | none, [] => return if o.wrong then 1 else 0
    | none, a :: _ =>
      complain program s!"warning: ignoring excess arguments, starting with {quoted a}"
      return if o.wrong then 1 else 0

end BenchRoster.Tool
