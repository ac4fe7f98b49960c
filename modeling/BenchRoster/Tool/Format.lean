/-
# Writing by a format

A format is text with directives, each of which writes an argument in some way.  It is gone over
again as long as there are arguments left.  A shell and the program of the same name understand
formats a little differently.
-/
import BenchRoster.Tool.Numeral
import BenchRoster.Tool.Quoting

namespace BenchRoster.Tool.Format

/-- Who reads a format. -/
inductive Reader where
  | shell
  | program
deriving DecidableEq

/-! ## Escapes -/

/-- The octet of a letter after a backslash that both readers know. -/
def escape? (c : Char) : Option Char :=
  match c with
  | '\\' => some '\\'
  | 'a' => some '\x07'
  | 'b' => some '\x08'
  | 'e' => some '\x1b'
  | 'f' => some '\x0c'
  | 'n' => some '\n'
  | 'r' => some '\r'
  | 't' => some '\t'
  | 'v' => some '\x0b'
  | _ => none

/-- Takes so many digits of a base at most, and gives the octet that they number. -/
def takeOctet (base count : Nat) (cs : List Char) : Char × List Char :=
  let digits := (cs.take count).takeWhile fun c => (Text.digit? base c).isSome
  (Char.ofNat (digitsValue base digits % 256), cs.drop digits.length)

def isOctal (c : Char) : Bool := (Text.digit? 8 c).isSome

/-- What a backslash and the text after it stand for. -/
inductive Escaped where
  | octets (cs rest : List Char)
  /-- Nothing more is written. -/
  | stop
  /-- Hexadecimal digits are missing. -/
  | incomplete

/-- A character of which the number is given, where only ASCII can be written as it is. -/
def numbered (letter : Char) (digits : List Char) : List Char :=
  let n := digitsValue 16 digits
  if n < 128 then [Char.ofNat n]
  else '\\' :: letter :: digits.map Char.toUpper

/-- Reads what comes after a backslash.  Where an argument is written with escapes (`inside`), an
octal number has a zero in front, and the writing can be stopped. -/
def readEscape (reader : Reader) (inside : Bool) (cs : List Char) : Escaped :=
  match cs with
  | [] => .octets ['\\'] []
  | c :: rest =>
    if isOctal c then
      let skip := inside ∧ c = '0' ∧ (reader = .program ∨ (rest.head?.map isOctal).getD false)
      let (o, rest) := takeOctet 8 3 (if skip then rest else cs)
      .octets [o] rest
    else if c = 'c' ∧ (inside ∨ reader = .program) then .stop
    else
      match escape? c, reader with
      | some o, _ => .octets [o] rest
      -- the backslash stands for itself
      | none, .shell => .octets ['\\'] cs
      | none, .program =>
        if c = 'x' then
          match takeOctet 16 2 rest with
          | (o, after) => if after.length = rest.length then .incomplete else .octets [o] after
        else if c = 'u' ∨ c = 'U' then
          let digits := if c = 'u' then 4 else 8
          let given := (rest.take digits).takeWhile fun d => (Text.digit? 16 d).isSome
          if given.length < digits then .incomplete
          else .octets (numbered c given) (rest.drop digits)
        else if c = '"' then .octets ['"'] rest
        else .octets ['\\', c] rest

/-- An argument with its escapes resolved, and whether the writing is stopped; nothing if digits are
missing. -/
def expand (reader : Reader) : Nat → List Char → Option (List Char × Bool)
  | 0, _ => some ([], false)
  | _ + 1, [] => some ([], false)
  | n + 1, '\\' :: cs =>
    match readEscape reader true cs with
    | .stop => some ([], true)
    | .incomplete => none
    | .octets os rest => (expand reader n rest).map fun (more, stop) => (os ++ more, stop)
  | n + 1, c :: cs => (expand reader n cs).map fun (more, stop) => (c :: more, stop)

/-! ## Directives -/

/-- How an argument is written. -/
structure Directive where
  left : Bool := false
  zeros : Bool := false
  plus : Bool := false
  blank : Bool := false
  /-- The base or the point is shown in any case. -/
  explicit : Bool := false
  width : Nat := 0
  precision : Option Nat := none

namespace Directive

/-- Fills up to the width; zeros stand between the sign and the digits. -/
def pad (d : Directive) (zeros : Bool) (sign body : List Char) : List Char :=
  let gap := d.width - (sign.length + body.length)
  if d.left then sign ++ body ++ List.replicate gap ' '
  else if zeros then sign ++ List.replicate gap '0' ++ body
  else List.replicate gap ' ' ++ sign ++ body

def sign (d : Directive) (negative : Bool) : List Char :=
  if negative then ['-'] else if d.plus then ['+'] else if d.blank then [' '] else []

/-- The digits of a number, at least as many as the precision says. -/
def digits (d : Directive) (base n : Nat) : List Char :=
  let least := d.precision.getD 1
  padZeros least (if n = 0 then [] else Nat.toDigits base n)

def writeSigned (d : Directive) (n : Int) : List Char :=
  d.pad (d.zeros && d.precision.isNone) (d.sign (n < 0)) (d.digits 10 n.natAbs)

def writeUnsigned (d : Directive) (letter : Char) (n : Nat) : List Char :=
  let zeros := d.zeros && d.precision.isNone
  match letter with
  | 'o' =>
    let ds := d.digits 8 n
    d.pad zeros [] (if d.explicit && ds.head? != some '0' then '0' :: ds else ds)
  | 'x' => d.pad zeros (if d.explicit && n != 0 then ['0', 'x'] else []) (d.digits 16 n)
  | 'X' =>
    d.pad zeros (if d.explicit && n != 0 then ['0', 'X'] else [])
      ((d.digits 16 n).map Char.toUpper)
  | _ => d.pad zeros [] (d.digits 10 n)

def writeText (d : Directive) (cs : List Char) : List Char :=
  d.pad false [] (d.precision.elim cs cs.take)

def writeFractional (d : Directive) (letter : Char) (f : Fractional) : List Char :=
  let sign := d.sign f.negative
  let shown (cs : List Char) : List Char := if letter.isUpper then cs.map Char.toUpper else cs
  match f.size with
  | .infinite => d.pad false sign (shown ['i', 'n', 'f'])
  | .undefined => d.pad false sign (shown ['n', 'a', 'n'])
  | .finite m e =>
    let places := d.precision.getD 6
    let body :=
      match letter.toLower with
      | 'f' => writeFixed m e places d.explicit
      | 'e' => writeScientific m e places d.explicit 'e'
      | 'a' => writeHexadecimal m e d.precision d.explicit
      | _ => writeGeneral m e places d.explicit 'e'
    if letter.toLower = 'a' then d.pad d.zeros (sign ++ shown ['0', 'x']) (shown body)
    else d.pad d.zeros sign (shown body)

end Directive

/-! ## Going over a format -/

/-- Why the writing stops before the end of the format. -/
inductive Stop where
  | finished
  | failed (complaint : String)

/-- What is done for a format. -/
inductive Event where
  | written (cs : List Char)
  | complaint (text : String)

structure Progress where
  /-- What was done, newest first. -/
  events : List Event := []
  arguments : List String
  /-- Some directive took an argument or found none left. -/
  used : Bool := false
  /-- Some argument was not what it should be. -/
  wrong : Bool := false

abbrev Writing := EStateM Stop Progress

def write (cs : List Char) : Writing Unit :=
  modify fun p => { p with events := .written cs :: p.events }

def complain (text : String) : Writing Unit :=
  modify fun p => { p with events := .complaint text :: p.events, wrong := true }

def warn (text : String) : Writing Unit :=
  modify fun p => { p with events := .complaint s!"warning: {text}" :: p.events }

/-- Takes an argument. -/
def argument? : Writing (Option String) := do
  let p ← get
  set { p with arguments := p.arguments.tail, used := true }
  return p.arguments.head?

/-- Complains about an argument that is no number, or not all of it. -/
def checkNumber (reader : Reader) (text : String) (found : Bool) (rest : List Char)
    (inRange : Bool) : Writing Unit := do
  match reader with
  | .shell =>
    if rest ≠ [] then
      complain (if found then s!"{text}: not completely converted"
        else s!"{text}: expected numeric value")
    else if !inRange then complain s!"{text}: Numerical result out of range"
  | .program =>
    if !inRange then complain s!"{quoted text}: Numerical result out of range"
    else if rest ≠ [] then
      complain (if found then s!"{quoted text}: value not completely converted"
        else s!"{quoted text}: expected a numeric value")

/-- The number of the octet after a quotation mark, which makes an argument a number too. -/
def quotedOctet? (reader : Reader) (text : String) : Writing (Option Nat) := do
  match reader, text.toList with
  | .shell, [q] => return if q = '\'' ∨ q = '"' then some 0 else none
  | reader, q :: c :: more =>
    if q = '\'' ∨ q = '"' then
      if reader = .program ∧ more ≠ [] then
        warn (s!"{String.ofList more}: character(s) following character constant " ++
          "have been ignored")
      return some c.toNat
    else return none
  | _, _ => return none

def signedArgument (reader : Reader) : Writing Int := do
  let text := (← argument?).getD ""
  match ← quotedOctet? reader text with
  | some n => return n
  | none =>
    let n := readNumeral text.toList
    checkNumber reader text n.found n.rest n.signed.2
    return n.signed.1

def unsignedArgument (reader : Reader) : Writing Nat := do
  let text := (← argument?).getD ""
  match ← quotedOctet? reader text with
  | some n => return n
  | none =>
    let n := readNumeral text.toList
    checkNumber reader text n.found n.rest n.unsigned.2
    return n.unsigned.1

/-- The program works with more bits than a shell. -/
def bitsOf : Reader → Nat
  | .shell => 53
  | .program => 64

def fractionalArgument (reader : Reader) : Writing Fractional := do
  let text := (← argument?).getD ""
  match ← quotedOctet? reader text with
  | some n => return { size := .finite n 0, rest := [] }
  | none =>
    let f := readFractional (bitsOf reader) text.toList
    checkNumber reader text f.found f.rest (!f.outOfRange)
    return f

/-- Widths and precisions end here, as there is no room for more to be written. -/
def maxCount : Int := 4000000

/-- A width or precision: digits, or an asterisk for an argument.  A shell takes the last 32 bits of
the argument, and the program takes no larger one (but a precision may be as small as it likes). -/
def readCount (reader : Reader) (what : String) (cs : List Char) :
    Writing (Option Int × List Char) := do
  match cs with
  | '*' :: cs =>
    let text := ((← get).arguments.head?).getD ""
    let n ← signedArgument reader
    let n := if reader = .shell then Int.bmod n (twoTo 32) else n
    if reader = .program ∧ (n > 2147483647 ∨ (n < -2147483648 ∧ what = "field width")) then
      throw (.failed s!"invalid {what}: {quoted text}")
    return (some (min n maxCount), cs)
  | cs =>
    let (ds, rest) := takeDigits 10 cs
    return (if ds.isEmpty then none else some (min (digitsValue 10 ds : Nat) maxCount), rest)

/-- Reads flags, width and precision. -/
def readDirective (reader : Reader) (cs : List Char) : Writing (Directive × List Char) := do
  let isFlag (c : Char) : Bool :=
    c == '-' || c == '+' || c == ' ' || c == '0' || c == '#' || (reader = .program && c == '\'')
  let flags := cs.takeWhile isFlag
  let (width, cs) ← readCount reader "field width" (cs.dropWhile isFlag)
  let width := width.getD 0
  let (precision, cs) : Option Int × List Char ←
    match cs with
    | '.' :: cs => do
      let (p, cs) ← readCount reader "precision" cs
      pure (some (p.getD 0), cs)
    | cs => pure (none, cs)
  let isLength (c : Char) : Bool := ['l', 'L', 'h', 'j', 't', 'z'].contains c
  let cs := if reader = .program then cs.dropWhile isLength else cs
  return ({ left := flags.contains '-' || width < 0, zeros := flags.contains '0',
            plus := flags.contains '+', blank := flags.contains ' ',
            explicit := flags.contains '#', width := width.natAbs,
            precision := (precision.filter (0 ≤ ·)).map Int.toNat }, cs)

/-- The program takes flags only where they have a meaning. -/
def fits (flags : List Char) (precise : Bool) (letter : Char) : Bool :=
  let among (s : String) : Bool := s.toList.contains letter
  among "aAcdeEfFgGiosuxX" &&
    !(flags.contains '\'' && among "aAceEosxX") && !(flags.contains '#' && among "cdisu") &&
    !(flags.contains '0' && among "cs") && !(precise && letter == 'c')

/-- Writes by a directive, which begins after the percent sign. -/
def carryOut (reader : Reader) (cs : List Char) : Writing (List Char) := do
  let (d, after) ← readDirective reader cs
  let taken := cs.take (cs.length - after.length + 1)
  let shown := "%" ++ String.ofList taken
  let wrong : Stop :=
    .failed (match reader with
      | .shell => s!"{shown}: invalid directive"
      | .program => s!"{shown}: invalid conversion specification")
  match after with
  | [] =>
    if reader = .shell then throw (.failed "missing format character") else throw wrong
  | letter :: rest =>
    let flags := cs.takeWhile fun c => ['-', '+', ' ', '0', '#', '\''].contains c
    let direct := after.length = cs.length
    if reader = .program ∧ direct ∧ (letter = 'b' ∨ letter = 'q') then pure ()
    else if reader = .program ∧ !fits flags (taken.contains '.') letter then throw wrong
    match letter with
    | 'b' =>
      let text := (← argument?).getD ""
      match expand reader (text.length + 1) text.toList with
      | none => throw (.failed "missing hexadecimal number in escape")
      | some (cs, stop) =>
        write (d.writeText cs)
        if stop then throw .finished
    | 'q' =>
      if reader = .shell then throw wrong
      let text ← argument?
      write ((text.map fun t => (shellName t).toList).getD [])
    | 'c' =>
      let text := (← argument?).getD ""
      write ({ d with precision := none }.writeText [(text.toList.head?).getD '\x00'])
    | 's' => write (d.writeText ((← argument?).getD "").toList)
    | letter =>
      if letter = 'd' ∨ letter = 'i' then write (d.writeSigned (← signedArgument reader))
      else if ['o', 'u', 'x', 'X'].contains letter then
        write (d.writeUnsigned letter (← unsignedArgument reader))
      else if ['e', 'E', 'f', 'F', 'g', 'G'].contains letter ∨
          (reader = .program ∧ (letter = 'a' ∨ letter = 'A')) then
        write (d.writeFractional letter (← fractionalArgument reader))
      else throw wrong
    return rest

/-- Goes over a format once. -/
def pass (reader : Reader) : Nat → List Char → Writing Unit
  | 0, _ => return
  | _ + 1, [] => return
  | n + 1, '\\' :: cs => do
    match readEscape reader false cs with
    | .octets os rest =>
      write os
      pass reader n rest
    | .stop => throw .finished
    | .incomplete => throw (.failed "missing hexadecimal number in escape")
  | n + 1, '%' :: '%' :: cs => do
    write ['%']
    pass reader n cs
  | n + 1, '%' :: cs => do pass reader n (← carryOut reader cs)
  | n + 1, c :: cs => do
    write [c]
    pass reader n cs

/-- Goes over a format as long as there are arguments that it uses. -/
def passes (reader : Reader) (format : List Char) : Nat → Writing Unit
  | 0 => return
  | n + 1 => do
    modify fun p => { p with used := false }
    pass reader (format.length + 1) format
    let p ← get
    if p.used ∧ p.arguments ≠ [] then passes reader format n

/-- What has come of a format and its arguments. -/
structure Outcome where
  events : List Event
  wrong : Bool
  /-- What made the writing fail. -/
  failure : Option String
  /-- The arguments that were not used. -/
  unused : List String

/-- All that is written. -/
def Outcome.written (o : Outcome) : List Char :=
  o.events.flatMap fun
    | .written cs => cs
    | .complaint _ => []

def Outcome.complaints (o : Outcome) : List String :=
  o.events.filterMap fun
    | .written _ => none
    | .complaint text => some text

/-- Writes arguments by a format. -/
def run (reader : Reader) (format : String) (args : List String) : Outcome :=
  let outcome (p : Progress) (failure : Option String) (unused : List String) : Outcome :=
    ⟨p.events.reverse, p.wrong, failure, unused⟩
  match passes reader format.toList (args.length + 1) { arguments := args } with
  | .ok _ p => outcome p none p.arguments
  | .error .finished p =>
    outcome { p with wrong := p.wrong && reader == .shell } none []
  | .error (.failed text) p => outcome p (some text) []

example : (run .shell "%5.2s|%-5d|%05d|%x" ["abc", "42", "7", "255"]).written =
    "   ab|42   |00007|ff".toList := by decide +kernel

end BenchRoster.Tool.Format
