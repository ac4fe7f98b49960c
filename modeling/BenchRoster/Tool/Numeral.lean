/-
# Numbers as arguments

Reading whole and fractional numbers from the front of an argument, and writing fractional ones
with a given number of digits.  A fractional number is first rounded to a number of bits, and
then written exactly as what it has become.
-/
import BenchRoster.Decimal.Binary64
import BenchRoster.Text.Digits

namespace BenchRoster.Tool

def isSpace (c : Char) : Bool := c == ' ' || ('\x09' ≤ c && c ≤ '\x0d')

/-- Takes the digits of a base from the front. -/
def takeDigits (base : Nat) (cs : List Char) : List Char × List Char :=
  let digits := cs.takeWhile fun c => (Text.digit? base c).isSome
  (digits, cs.drop digits.length)

/-- The value of digits. -/
def digitsValue (base : Nat) (cs : List Char) : Nat :=
  cs.foldl (fun n c => n * base + (Text.digit? base c).getD 0) 0

/-- A sign at the front: whether it is a minus, and what comes after it. -/
def takeSign (cs : List Char) : Bool × List Char :=
  match cs with
  | '-' :: cs => (true, cs)
  | '+' :: cs => (false, cs)
  | cs => (false, cs)

/-! ## Whole numbers -/

/-- A number read from the front of a text. -/
structure Numeral where
  negative : Bool := false
  magnitude : Nat := 0
  /-- What comes after the number. -/
  rest : List Char
  /-- There was a number. -/
  found : Bool := true
deriving DecidableEq

/-- Reads a whole number: after a zero it is octal, after `0x` hexadecimal, after `0b` binary. -/
def readNumeral (cs : List Char) : Numeral :=
  let (negative, body) := takeSign (cs.dropWhile isSpace)
  let based (base : Nat) (digits rest : List Char) : Numeral :=
    { negative, magnitude := digitsValue base digits, rest }
  let octal : Numeral := let (ds, rest) := takeDigits 8 body; based 8 ds rest
  match body with
  | '0' :: x :: more =>
    let base? : Option Nat :=
      if x = 'x' ∨ x = 'X' then some 16 else if x = 'b' ∨ x = 'B' then some 2 else none
    match base? with
    | none => octal
    | some base =>
      match takeDigits base more with
      | ([], _) => based 10 ['0'] (x :: more)
      | (ds, rest) => based base ds rest
  | '0' :: _ => octal
  | _ =>
    match takeDigits 10 body with
    | ([], _) => { rest := cs, found := false }
    | (ds, rest) => based 10 ds rest

/-- Reads a decimal whole number. -/
def readDecimal (cs : List Char) : Numeral :=
  let (negative, body) := takeSign (cs.dropWhile isSpace)
  match takeDigits 10 body with
  | ([], _) => { rest := cs, found := false }
  | (ds, rest) => { negative, magnitude := digitsValue 10 ds, rest }

/-- The signed number of 64 bits that is nearest, and whether it is the number itself. -/
def Numeral.signed (n : Numeral) : Int × Bool :=
  let bound := twoTo 63
  if n.negative then
    if n.magnitude ≤ bound then (-(n.magnitude : Int), true) else (-(bound : Int), false)
  else if n.magnitude < bound then (n.magnitude, true)
  else ((bound : Int) - 1, false)

/-- The number of 64 bits without a sign; a negative one is counted from the end. -/
def Numeral.unsigned (n : Numeral) : Nat × Bool :=
  let bound := twoTo 64
  if bound ≤ n.magnitude then (bound - 1, false)
  else if n.negative then ((bound - n.magnitude) % bound, true)
  else (n.magnitude, true)

/-! ## Fractional numbers -/

/-- The size of a fractional number. -/
inductive Size where
  /-- The number `m * 2 ^ e`. -/
  | finite (m : Nat) (e : Int)
  | infinite
  | undefined
deriving DecidableEq

/-- A fractional number read from the front of a text. -/
structure Fractional where
  negative : Bool := false
  size : Size := .finite 0 0
  rest : List Char
  found : Bool := true
  /-- The number is too large or too small for its bits. -/
  outOfRange : Bool := false

/-- The number with the given bits that is nearest to a fraction, a tie going to the even one. -/
def nearest (bits num den : Nat) : Nat × Int :=
  if num = 0 then (0, 0)
  else
    let e := (Nat.log2 num : Int) - (Nat.log2 den : Int) - bits
    let (n, d) := Magnitude.scale num den e
    let e := if twoTo bits * d ≤ n then e + 1 else e
    let (n, d) := Magnitude.scale num den e
    (Magnitude.roundDiv n d, e)

/-- The size of a fraction with 53 bits, or with 64 of them, and whether it is out of range. -/
def sizeOfFraction (bits num den : Nat) : Size × Bool :=
  if bits = 53 then
    match Magnitude.round num den with
    | .infinite => (.infinite, true)
    | .finite m e => (.finite m e, num ≠ 0 ∧ m < twoTo 52)
  else
    let (m, e) := nearest bits num den
    (.finite m e, false)

/-- An exponent after its letter; without digits there is none. -/
def readExponent (letter : Char) (cs : List Char) : Int × List Char :=
  match cs with
  | c :: r =>
    if c.toLower = letter then
      let (negative, body) := takeSign r
      match takeDigits 10 body with
      | ([], _) => (0, cs)
      | (ds, rest) =>
        let k := digitsValue 10 ds
        (if negative then -(k : Int) else k, rest)
    else (0, cs)
  | [] => (0, [])

/-- Exponents beyond this one change nothing any more. -/
def exponentBound : Nat := 20000

/-- The fraction that digits before and behind a point stand for, times a power. -/
def fractionOf (base factor : Nat) (whole part : List Char) (exponent : Int) : Nat × Nat :=
  let digits := digitsValue base (whole ++ part)
  let scale := if exponent < 0 then 1 else powerBounded factor exponent.toNat
  let den := if exponent < 0 then powerBounded factor (-exponent).toNat else 1
  (digits * scale, Nat.pow base part.length * den)
where
  powerBounded (factor n : Nat) : Nat := Nat.pow factor (min n exponentBound)

/-- The words for numbers that are none, longer ones first. -/
def words : List (List Char × Size) :=
  [("infinity".toList, .infinite), ("inf".toList, .infinite), ("nan".toList, .undefined)]

/-- Reads a fractional number and rounds it to so many bits. -/
def readFractional (bits : Nat) (cs : List Char) : Fractional :=
  let (negative, body) := takeSign (cs.dropWhile isSpace)
  let lower := body.map Char.toLower
  match words.find? fun w => w.1.isPrefixOf lower with
  | some (w, size) => { negative, size, rest := body.drop w.length }
  | none =>
    let read (base : Nat) (letter : Char) (factor : Nat) (text : List Char) :
        Option Fractional :=
      let (whole, rest) := takeDigits base text
      let (part, rest) : List Char × List Char :=
        match rest with
        | '.' :: r =>
          let (part, r) := takeDigits base r
          if whole.isEmpty && part.isEmpty then ([], rest) else (part, r)
        | r => ([], r)
      if whole.isEmpty && part.isEmpty then none
      else
        let (exponent, rest) := readExponent letter rest
        let (num, den) := fractionOf base factor whole part exponent
        let (size, outOfRange) := sizeOfFraction bits num den
        some { negative, size, rest, outOfRange }
    let hexadecimal? : Option Fractional :=
      match body with
      | '0' :: x :: more => if x.toLower = 'x' then read 16 'p' 2 more else none
      | _ => none
    match hexadecimal?.or (read 10 'e' 10 body) with
    | some f => f
    | none => { rest := cs, found := false }

/-! ## Writing fractional numbers -/

/-- The fraction of a size that has one. -/
def fraction (m : Nat) (e : Int) : Nat × Nat := Magnitude.toFraction m e

/-- At least so many digits, with zeros in front. -/
def padZeros (width : Nat) (cs : List Char) : List Char :=
  List.replicate (width - cs.length) '0' ++ cs

/-- A point with what comes after it, if there is anything or the point is wanted. -/
def afterPoint (wanted : Bool) (part : List Char) : List Char :=
  if part.isEmpty && !wanted then [] else '.' :: part

/-- With so many places behind the point. -/
def writeFixed (m : Nat) (e : Int) (places : Nat) (point : Bool) : List Char :=
  let (num, den) := fraction m e
  let digits :=
    padZeros (places + 1) (Nat.toDigits 10 (Magnitude.roundDiv (num * tenTo places) den))
  let whole := digits.take (digits.length - places)
  whole ++ afterPoint point (digits.drop whole.length)

/-- The exponent of ten of the first digit, when there are so many places behind it, and all these
digits. -/
def scientific (m : Nat) (e : Int) (places : Nat) : Int × List Char :=
  if m = 0 then (0, List.replicate (places + 1) '0')
  else
    let (num, den) := fraction m e
    -- an estimate from the lengths is off by one at most
    let estimate : Int := ((Nat.toDigits 10 num).length : Int) - (Nat.toDigits 10 den).length - 1
    let digitsAt (exponent : Int) : List Char :=
      let shift : Int := places - exponent
      let q :=
        if shift < 0 then Magnitude.roundDiv num (den * tenTo (-shift).toNat)
        else Magnitude.roundDiv (num * tenTo shift.toNat) den
      Nat.toDigits 10 q
    let candidates := [estimate, estimate + 1, estimate + 2]
    match candidates.find? fun x => (digitsAt x).length ≤ places + 1 with
    | some x => (x, digitsAt x)
    | none => (estimate, digitsAt estimate)

/-- With one digit before the point, so many behind it, and an exponent. -/
def writeScientific (m : Nat) (e : Int) (places : Nat) (point : Bool) (letter : Char) :
    List Char :=
  let (exponent, digits) := scientific m e places
  let sign := if exponent < 0 then '-' else '+'
  digits.take 1 ++ afterPoint point (digits.drop 1) ++
    [letter, sign] ++ padZeros 2 (Nat.toDigits 10 exponent.natAbs)

/-- With one hexadecimal digit before the point, of four bits unless it is zero, and an exponent of
two; without a precision, so many digits behind the point as there are. -/
def writeHexadecimal (m : Nat) (e : Int) (places : Option Nat) (point : Bool) : List Char :=
  if m = 0 then
    '0' :: afterPoint point (List.replicate (places.getD 0) '0') ++ ['p', '+', '0']
  else
    let high := Nat.log2 m
    -- sixteen digits, the first of which is 8 or more
    let digits := if high ≤ 63 then m * twoTo (63 - high) else m / twoTo (high - 63)
    let exponent := e + high - 3
    let (digits, exponent, kept) : Nat × Int × Nat :=
      match places with
      | none => (digits, exponent, 15)
      | some n =>
        if 15 ≤ n then (digits, exponent, n)
        else
          let rounded := Magnitude.roundDiv digits (twoTo (4 * (15 - n)))
          let whole := rounded * twoTo (4 * (15 - n))
          if whole < twoTo 64 then (whole, exponent, n) else (twoTo 60, exponent + 4, n)
    let all := padZeros 16 (Nat.toDigits 16 digits) ++ List.replicate (kept - 15) '0'
    let part := (all.drop 1).take kept
    let part := if places.isNone then (part.reverse.dropWhile (· == '0')).reverse else part
    let sign := if exponent < 0 then '-' else '+'
    all.take 1 ++ afterPoint point part ++ ['p', sign] ++ Nat.toDigits 10 exponent.natAbs

/-- Drops zeros from the end of what comes after a point, and then the point. -/
def dropZeros (cs : List Char) : List Char :=
  if cs.contains '.' then
    let shorter := (cs.reverse.dropWhile (· == '0')).reverse
    if shorter.getLast? = some '.' then shorter.dropLast else shorter
  else cs

/-- With so many digits in all, and an exponent only where that is shorter. -/
def writeGeneral (m : Nat) (e : Int) (digits : Nat) (keepZeros : Bool) (letter : Char) :
    List Char :=
  let digits := max digits 1
  let (exponent, _) := scientific m e (digits - 1)
  if -4 ≤ exponent ∧ exponent < digits then
    let shown := writeFixed m e (digits - 1 - exponent).toNat keepZeros
    if keepZeros then shown else dropZeros shown
  else
    let shown := writeScientific m e (digits - 1) keepZeros letter
    if keepZeros then shown
    else
      let mantissa := shown.takeWhile (· != letter)
      dropZeros mantissa ++ shown.drop mantissa.length

example :
    let half := (readFractional 53 "2.5".toList).size
    half = .finite 5629499534213120 (-51) ∧
      writeFixed 5629499534213120 (-51) 0 false = ['2'] ∧
      writeGeneral 5629499534213120 (-51) 6 false 'e' = "2.5".toList := by decide +kernel

end BenchRoster.Tool
