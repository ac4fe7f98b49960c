/-
# Reading the pieces of a document

Readers take characters from the front of a document and answer a value with the rest.  This module
has the pieces that stand alone: blanks, words, numbers, texts, and whole values that are skipped.
A skipped value may be nested to any depth and its numbers and characters are not evaluated.
-/
import BenchRoster.Iterate
import BenchRoster.Json.Fault
import BenchRoster.Text.Digits

namespace BenchRoster.Json

/-- Takes a value from the front of a document. -/
abbrev Reader (α : Type) : Type := List Char → Except Fault (α × List Char)

/-- The blanks between the pieces of a document. -/
def isBlank (c : Char) : Bool := c == ' ' || c == '\n' || c == '\t' || c == '\r'

def skipBlanks (cs : List Char) : List Char := cs.dropWhile isBlank

/-- Repeats a step as long as it asks to go on and has taken something. -/
def repeatStep {σ : Type} (step : σ → List Char → Except Fault (Option σ × List Char))
    (s : σ) (cs : List Char) : Except Fault (σ × List Char) :=
  iterate List.length step s cs

/-! ## Words -/

/-- Takes the given characters; the place of a fault is after the first one that differs. -/
def readWord : List Char → List Char → Except Fault (List Char)
  | [], cs => .ok cs
  | _ :: _, [] => faultHere .eofInValue []
  | w :: ws, c :: cs => if c = w then readWord ws cs else faultAhead .expectedWord (c :: cs)

/-! ## Numbers -/

/-- A number as it is read. -/
inductive Scalar where
  | integer (n : Int)
  | float (x : Float64)

def Scalar.found : Scalar → Found
  | .integer n => .integer n
  | .float x => .float x

/-- The largest integer that is kept exactly. -/
def maxNatural : Nat := twoTo 64 - 1

/-- Scales `m` by a power of ten: by one factor when the power is at most 308, and else by factors
of `10 ^ -308` first. -/
def scaleDecimal : Nat → Magnitude → Int → Option Magnitude
  | 0, x, _ => some x
  | fuel + 1, x, k =>
    if k.natAbs ≤ 308 then
      let power := Magnitude.ofDecimal 1 k.natAbs
      let y := if 0 ≤ k then x.mul power else x.div power
      if y.isFinite then some y else none
    else if x.isZero then some x
    else if 0 ≤ k then none
    else scaleDecimal fuel (x.div (Magnitude.ofDecimal 1 308)) (k + 308)

/-- The floating point number `significand * 10 ^ k`. -/
def finishFloat (negative : Bool) (significand : Nat) (k : Int) (rest : List Char) :
    Except Fault (Scalar × List Char) :=
  match scaleDecimal (k.natAbs / 308 + 2) (Magnitude.ofNat significand) k with
  | some x => .ok (.float (.number negative x), rest)
  | none => faultHere .numberTooLarge rest

/-- The greatest exponent that is read as written. -/
def maxExponentText : Nat := twoTo 31 - 1

/-- Reads the digits of an exponent as long as they stay in range. -/
def exponentDigits : Nat → List Char → Nat × Bool × List Char
  | n, [] => (n, true, [])
  | n, c :: cs =>
    if c.isDigit then
      let n' := n * 10 + (c.toNat - 48)
      if maxExponentText < n' then (n, false, cs) else exponentDigits n' cs
    else (n, true, c :: cs)

/-- Reads an exponent after its letter and scales the digits before it. -/
def readExponent (negative : Bool) (significand : Nat) (k : Int) (cs : List Char) :
    Except Fault (Scalar × List Char) :=
  let (down, cs) := match cs with
    | '+' :: r => (false, r)
    | '-' :: r => (true, r)
    | r => (false, r)
  match cs with
  | [] => faultHere .eofInValue []
  | c :: r =>
    if c.isDigit then
      match exponentDigits (c.toNat - 48) r with
      | (n, true, rest) =>
        let e : Int := if down then k - n else k + n
        finishFloat negative significand (max (-twoTo 31) (min e (twoTo 31 - 1))) rest
      | (_, false, rest) =>
        if significand ≠ 0 ∧ ¬ down then faultHere .numberTooLarge rest
        else .ok (.float (.number negative (.finite 0 Magnitude.minExponent)),
          rest.dropWhile Char.isDigit)
    else faultAhead .invalidNumber (c :: r)

/-- Reads an exponent, if there is one, and scales the digits before it. -/
def readScale (negative : Bool) (significand : Nat) (k : Int) (cs : List Char) :
    Except Fault (Scalar × List Char) :=
  match cs with
  | c :: r =>
    if c = 'e' ∨ c = 'E' then readExponent negative significand k r
    else finishFloat negative significand k cs
  | [] => finishFloat negative significand k []

/-- Reads digits into a number as long as it stays exact. Answers the number, how many digits were
taken, whether a further digit would be one too many, and the rest. -/
def exactDigits : Nat → Nat → List Char → Nat × Nat × Bool × List Char
  | n, taken, [] => (n, taken, false, [])
  | n, taken, c :: cs =>
    if c.isDigit then
      let n' := n * 10 + (c.toNat - 48)
      if maxNatural < n' then (n, taken, true, c :: cs) else exactDigits n' (taken + 1) cs
    else (n, taken, false, c :: cs)

/-- Reads the digits after a point. -/
def readFraction (negative : Bool) (significand : Nat) (k : Int) (cs : List Char) :
    Except Fault (Scalar × List Char) :=
  match exactDigits significand 0 cs with
  | (n, taken, true, rest) =>
    readScale negative n (k - taken) (rest.dropWhile Char.isDigit)
  | (_, 0, false, []) => faultHere .eofInValue []
  | (_, 0, false, c :: r) => faultAhead .invalidNumber (c :: r)
  | (n, taken + 1, false, rest) => readScale negative n (k - (taken + 1)) rest

/-- An integer with its sign; a negative one beyond 64 bits and minus zero are floating point. -/
def finishInteger (negative : Bool) (n : Nat) : Scalar :=
  if negative then
    if n = 0 ∨ twoTo 63 < n then .float (.number true (Magnitude.ofNat n)) else .integer (-n)
  else .integer n

/-- Reads what may follow the digits of an integer. -/
def readTail (negative : Bool) (n : Nat) (cs : List Char) : Except Fault (Scalar × List Char) :=
  match cs with
  | c :: r =>
    if c = '.' then readFraction negative n 0 r
    else if c = 'e' ∨ c = 'E' then readExponent negative n 0 r
    else .ok (finishInteger negative n, cs)
  | [] => .ok (finishInteger negative n, [])

/-- Reads a number after its sign. -/
def readNumber (negative : Bool) (cs : List Char) : Except Fault (Scalar × List Char) :=
  match cs with
  | [] => faultHere .eofInValue []
  | c :: r =>
    if c = '0' then
      match r with
      | d :: r' => if d.isDigit then faultAhead .invalidNumber (d :: r') else readTail negative 0 r
      | [] => readTail negative 0 []
    else if c.isDigit then
      match exactDigits (c.toNat - 48) 0 r with
      | (n, _, false, rest) => readTail negative n rest
      | (n, _, true, rest) =>
        let more := rest.takeWhile Char.isDigit
        match rest.dropWhile Char.isDigit with
        | d :: r' =>
          if d = '.' then readFraction negative n more.length r'
          else readScale negative n more.length (d :: r')
        | [] => readScale negative n more.length []
    else faultAhead .invalidNumber (c :: r)

/-- Skips the digits of an exponent after its letter. -/
def skipExponent (cs : List Char) : Except Fault (List Char) :=
  let cs := match cs with
    | '+' :: r => r
    | '-' :: r => r
    | r => r
  match cs with
  | [] => faultHere .invalidNumber []
  | c :: r =>
    if c.isDigit then .ok (r.dropWhile Char.isDigit) else faultAhead .invalidNumber (c :: r)

/-- Skips an exponent, if there is one. -/
def skipScale (cs : List Char) : Except Fault (List Char) :=
  match cs with
  | c :: r => if c = 'e' ∨ c = 'E' then skipExponent r else .ok cs
  | [] => .ok []

/-- Skips a number after its sign. -/
def skipNumber (cs : List Char) : Except Fault (List Char) :=
  match cs with
  | [] => faultHere .invalidNumber []
  | c :: r =>
    if c.isDigit then
      let rest := if c = '0' then r else r.dropWhile Char.isDigit
      match rest with
      | d :: r' =>
        if d.isDigit then faultAhead .invalidNumber (d :: r')
        else if d = '.' then
          match r' with
          | f :: r'' =>
            if f.isDigit then skipScale (r''.dropWhile Char.isDigit)
            else faultAhead .invalidNumber (f :: r'')
          | [] => faultAhead .invalidNumber []
        else skipScale (d :: r')
      | [] => .ok []
    else faultAhead .invalidNumber (c :: r)

/-! ## Texts -/

/-- Reads four hexadecimal digits; they count as four bytes whatever they are. -/
def readHex (cs : List Char) : Except Fault (Nat × List Char) :=
  if (Text.encode (cs.take 4)).length < 4 then faultHere .eofInText []
  else
    match cs with
    | a :: b :: c :: d :: rest =>
      match Text.number? 16 [a, b, c, d] with
      | some n => .ok (n, rest)
      | none => .error ⟨.invalidEscape, .at cs 4⟩
    | _ => .error ⟨.invalidEscape, .at cs 4⟩

/-- The characters with a short escape. -/
def shortEscape? (c : Char) : Option Char :=
  if c = '"' ∨ c = '\\' ∨ c = '/' then some c
  else if c = 'b' then some '\x08'
  else if c = 'f' then some '\x0c'
  else if c = 'n' then some '\n'
  else if c = 'r' then some '\r'
  else if c = 't' then some '\t'
  else none

/-- Reads the second half of a surrogate pair. -/
def readLowSurrogate (high : Nat) (cs : List Char) : Except Fault (Char × List Char) :=
  match cs with
  | [] => faultHere .eofInText []
  | c :: r =>
    if c = '\\' then
      match r with
      | [] => faultHere .eofInText []
      | d :: r' =>
        if d = 'u' then
          match readHex r' with
          | .error f => .error f
          | .ok (low, rest) =>
            if 0xDC00 ≤ low ∧ low ≤ 0xDFFF then
              .ok (Char.ofNat ((high - 0xD800) * 0x400 + (low - 0xDC00) + 0x10000), rest)
            else faultHere .loneSurrogate rest
        else faultAhead .unfinishedSurrogate (d :: r')
    else faultAhead .unfinishedSurrogate (c :: r)

/-- Reads an escape after its backslash. -/
def readEscape (cs : List Char) : Except Fault (Char × List Char) :=
  match cs with
  | [] => faultHere .eofInText []
  | c :: r =>
    match shortEscape? c with
    | some d => .ok (d, r)
    | none =>
      if c = 'u' then
        match readHex r with
        | .error f => .error f
        | .ok (n, rest) =>
          if 0xDC00 ≤ n ∧ n ≤ 0xDFFF then faultHere .loneSurrogate rest
          else if 0xD800 ≤ n ∧ n ≤ 0xDBFF then readLowSurrogate n rest
          else .ok (Char.ofNat n, rest)
      else faultAhead .invalidEscape (c :: r)

/-- Takes one character of a text, or its closing quote. -/
def textStep (acc : List Char) (cs : List Char) :
    Except Fault (Option (List Char) × List Char) :=
  match cs with
  | [] => faultHere .eofInText []
  | c :: r =>
    if c = '"' then .ok (none, r)
    else if c = '\\' then
      match readEscape r with
      | .error f => .error f
      | .ok (d, rest) => .ok (some (d :: acc), rest)
    else if c.toNat < 0x20 then faultAhead .controlCharacter (c :: r)
    else .ok (some (c :: acc), r)

/-- Reads a text after its opening quote. -/
def readText (cs : List Char) : Except Fault (String × List Char) :=
  match repeatStep textStep [] cs with
  | .error f => .error f
  | .ok (acc, rest) => .ok (String.ofList acc.reverse, rest)

/-- Skips one character of a text, or its closing quote. -/
def skipTextStep (_ : Unit) (cs : List Char) : Except Fault (Option Unit × List Char) :=
  match cs with
  | [] => faultHere .eofInText []
  | c :: r =>
    if c = '"' then .ok (none, r)
    else if c = '\\' then
      match r with
      | [] => faultHere .eofInText []
      | d :: r' =>
        if (shortEscape? d).isSome then .ok (some (), r')
        else if d = 'u' then
          match readHex r' with
          | .error f => .error f
          | .ok (_, rest) => .ok (some (), rest)
        else faultAhead .invalidEscape (d :: r')
    else if c.toNat < 0x20 then faultHere .controlCharacter (c :: r)
    else .ok (some (), r)

/-- Skips a text after its opening quote. -/
def skipText (cs : List Char) : Except Fault (List Char) :=
  match repeatStep skipTextStep () cs with
  | .error f => .error f
  | .ok (_, rest) => .ok rest

/-! ## Skipped values -/

/-- The brackets that enclose a skipped value. -/
inductive Bracket where
  | list
  | object
deriving DecidableEq, Repr

def Bracket.opening : Bracket → Char
  | .list => '['
  | .object => '\x7b'

def Bracket.closing : Bracket → Char
  | .list => ']'
  | .object => '\x7d'

def Bracket.eof : Bracket → Cause
  | .list => .eofInList
  | .object => .eofInObject

def Bracket.expectedEnd : Bracket → Cause
  | .list => .expectedListEnd
  | .object => .expectedObjectEnd

/-- Where skipping stands: before a value, or just after one. -/
inductive Skip where
  | before (around : List Bracket)
  | after (around : List Bracket)

/-- Skips the key and the colon of an object's entry. -/
def skipKey (cs : List Char) : Except Fault (List Char) :=
  match skipBlanks cs with
  | [] => faultAhead .eofInObject []
  | c :: r =>
    if c = '"' then
      match skipText r with
      | .error f => .error f
      | .ok rest =>
        match skipBlanks rest with
        | [] => faultAhead .eofInObject []
        | d :: r' => if d = ':' then .ok r' else faultAhead .expectedColon (d :: r')
    else faultAhead .keyNotText (c :: r)

/-- Goes on to a value inside the given bracket. -/
def skipInto (b : Bracket) (around : List Bracket) (cs : List Char) :
    Except Fault (Option Skip × List Char) :=
  match b with
  | .list => .ok (some (.before (b :: around)), cs)
  | .object =>
    match skipKey cs with
    | .error f => .error f
    | .ok rest => .ok (some (.before (b :: around)), rest)

/-- Skips the opening of a list or an object, and its end if it is empty. -/
def skipOpen (b : Bracket) (around : List Bracket) (cs : List Char) :
    Except Fault (Option Skip × List Char) :=
  match skipBlanks cs with
  | [] => faultAhead b.eof []
  | c :: r =>
    if c = b.closing then .ok (some (.after around), r) else skipInto b around (c :: r)

/-- Skips a value that is no list and no object. -/
def skipAtom (c : Char) (r : List Char) : Except Fault (List Char) :=
  if c = 'n' then readWord ['u', 'l', 'l'] r
  else if c = 't' then readWord ['r', 'u', 'e'] r
  else if c = 'f' then readWord ['a', 'l', 's', 'e'] r
  else if c = '-' then skipNumber r
  else if c.isDigit then skipNumber (c :: r)
  else if c = '"' then skipText r
  else faultAhead .expectedValue (c :: r)

/-- One step of skipping. -/
def skipStep (s : Skip) (cs : List Char) : Except Fault (Option Skip × List Char) :=
  match s with
  | .after [] => .ok (none, cs)
  | .after (b :: around) =>
    match skipBlanks cs with
    | [] => faultAhead b.eof []
    | c :: r =>
      if c = ',' then skipInto b around r
      else if c = b.closing then .ok (some (.after around), r)
      else faultAhead b.expectedEnd (c :: r)
  | .before around =>
    match skipBlanks cs with
    | [] => faultAhead .eofInValue []
    | c :: r =>
      if c = '[' then skipOpen .list around r
      else if c = '\x7b' then skipOpen .object around r
      else
        match skipAtom c r with
        | .error f => .error f
        | .ok rest => .ok (some (.after around), rest)

/-- Skips a value. -/
def skipValue (cs : List Char) : Except Fault (List Char) :=
  match repeatStep skipStep (.before []) cs with
  | .error f => .error f
  | .ok (_, rest) => .ok rest

end BenchRoster.Json
