/-
# What scalars stand for

A plain scalar is a null, a truth value, an integer, a floating point number or, failing all
these, a text.  A tag can force one of the readings; every scalar in quotes or in a block is a text.
-/
import BenchRoster.Mismatch
import BenchRoster.Text.Digits
import BenchRoster.Yaml.Event

namespace BenchRoster.Yaml

/-- Messages call a null the unit value, and write floating point numbers positionally. -/
def wording : Wording := ⟨"unit value", .plain⟩

/-! ## Readings of a text -/

def isNull (s : String) : Bool := s == "null" || s == "Null" || s == "NULL" || s == "~"

def flag? (s : String) : Option Bool :=
  if s = "true" ∨ s = "True" ∨ s = "TRUE" then some true
  else if s = "false" ∨ s = "False" ∨ s = "FALSE" then some false
  else none

/-- Digits that may follow a sign. -/
def signed? (base : Nat) : List Char → Option Int
  | '-' :: cs => (Text.number? base cs).map fun n => -(n : Int)
  | '+' :: cs => (Text.number? base cs).map fun n => (n : Int)
  | cs => (Text.number? base cs).map fun n => (n : Int)

/-- Zeros before further digits make a text of what looks like a number. -/
def zeroPadded (cs : List Char) : Bool :=
  let cs := match cs with
    | '-' :: r => r
    | '+' :: r => r
    | r => r
  match cs with
  | '0' :: d :: ds => (d :: ds).all Char.isDigit
  | _ => false

/-- The bases that are marked by a letter after a zero. -/
def baseMark? : List Char → Option (Nat × List Char)
  | '0' :: 'x' :: r => some (16, r)
  | '0' :: 'o' :: r => some (8, r)
  | '0' :: 'b' :: r => some (2, r)
  | _ => none

def startsSigned : List Char → Bool
  | '-' :: _ => true
  | '+' :: _ => true
  | _ => false

/-- An integer without a minus sign and at most the given bound. -/
def natural? (bound : Nat) (cs : List Char) : Option Nat :=
  let within (n : Option Nat) : Option Nat := n.filter (· ≤ bound)
  let body := match cs with
    | '+' :: r => r
    | r => r
  let decimal : Option Nat :=
    if startsSigned body ∨ zeroPadded cs then none else within (Text.number? 10 body)
  match baseMark? body with
  | some (base, r) =>
    -- a sign after the mark of a base rules out all readings
    if startsSigned r then none
    else (within (Text.number? base r)).or decimal
  | none => decimal

/-- An integer with a sign, between the given bounds. -/
def integer? (low high : Int) (cs : List Char) : Option Int :=
  let within (n : Option Int) : Option Int := n.filter fun n => low ≤ n ∧ n ≤ high
  let marked := match cs with
    | '-' :: r =>
      (baseMark? r).bind fun b => within ((Text.number? b.1 b.2).map fun n => -(n : Int))
    | _ => none
  marked.or (if zeroPadded cs then none else within (signed? 10 cs))

/-- The mantissa and exponent of a decimal: digits without the point, and the power of ten. -/
def decimalParts? (cs : List Char) : Option (Nat × Nat × Int) :=
  let whole := cs.takeWhile Char.isDigit
  let r := cs.dropWhile Char.isDigit
  let (fraction, r) := match r with
    | '.' :: r => (r.takeWhile Char.isDigit, r.dropWhile Char.isDigit)
    | r => ([], r)
  match Text.number? 10 (whole ++ fraction) with
  | none => none
  | some n =>
    let count := (whole ++ fraction).length
    match r with
    | [] => some (n, count, -(fraction.length : Int))
    | c :: e =>
      if c = 'e' ∨ c = 'E' then (signed? 10 e).map fun e => (n, count, e - fraction.length)
      else none

/-- A finite decimal number, rounded.  Numbers beyond the range on either side are recognised by
their count of digits, so no huge power is ever computed. -/
def decimal? (negative : Bool) (cs : List Char) : Option Float64 :=
  match decimalParts? cs with
  | none => none
  | some (n, count, e) =>
    let size :=
      if n = 0 ∨ count + e < -400 then Magnitude.finite 0 Magnitude.minExponent
      else if 400 + count < e then .infinite
      else Magnitude.ofDecimal n e
    if size.isFinite then some (.number negative size) else none

/-- A floating point number, an infinity, or no number. -/
def float? (s : String) : Option Float64 :=
  let cs := s.toList
  let (plus, body) := match cs with
    | '+' :: r => (true, r)
    | r => (false, r)
  if plus ∧ startsSigned body then none
  else
    let word := String.ofList body
    if word = ".inf" ∨ word = ".Inf" ∨ word = ".INF" then some (.number false .infinite)
    else if s = "-.inf" ∨ s = "-.Inf" ∨ s = "-.INF" then some (.number true .infinite)
    else if s = ".nan" ∨ s = ".NaN" ∨ s = ".NAN" then some .notANumber
    else
      match body with
      | '-' :: r => decimal? true r
      | r => decimal? false r

/-! ## Readings of a scalar -/

def max64 : Nat := twoTo 64 - 1
def max128 : Nat := twoTo 128 - 1

/-- An integer of any width. -/
def anyInteger? (s : String) : Option Found :=
  let cs := s.toList
  match natural? max64 cs with
  | some n => some (.integer n)
  | none =>
    match integer? (-twoTo 63) (twoTo 63 - 1) cs with
    | some n => some (.integer n)
    | none =>
      match natural? max128 cs with
      | some n => some (.wideInteger n)
      | none => (integer? (-twoTo 127) (twoTo 127 - 1) cs).map .wideInteger

/-- What a plain text stands for. -/
def plainFound (s : String) : Found :=
  if s.isEmpty ∨ isNull s then .unit
  else
    match flag? s with
    | some b => .flag b
    | none =>
      match anyInteger? s with
      | some n => n
      | none =>
        match if zeroPadded s.toList then none else float? s with
        | some x => .float x
        | none => .text s

def flagTag : TagText := Text.utf8 "tag:yaml.org,2002:bool"
def integerTag : TagText := Text.utf8 "tag:yaml.org,2002:int"
def floatTag : TagText := Text.utf8 "tag:yaml.org,2002:float"
def nullTag : TagText := Text.utf8 "tag:yaml.org,2002:null"

/-- A tag of a document's own begins with an exclamation mark. -/
def isOwn (tag : TagText) : Bool := (Text.utf8 "!").isPrefixOf tag

/-- The name in a tag of a document's own: what follows the exclamation mark, or the mark itself
when nothing does.  A tag that is no text has no name. -/
def ownTag? (tag : Option TagText) : Option String :=
  tag.bind fun t =>
    if isOwn t then Text.ofUtf8? (if t.length = 1 then t else t.drop 1) else none

/-- What a scalar stands for, or the tag it does not satisfy. -/
def Scalar.found (s : Scalar) : Except Mismatch Found :=
  let untagged : Found := if s.style = .plain then plainFound s.text else .text s.text
  let forced (x : Option Found) (expected : String) : Except Mismatch Found :=
    match x with
    | some x => .ok x
    | none => .error (.wrongValue (.text s.text) expected)
  match s.tag with
  | none => .ok untagged
  | some tag =>
    if tag = flagTag then forced ((flag? s.text).map .flag) "a boolean"
    else if tag = integerTag then forced (anyInteger? s.text) "an integer"
    else if tag = floatTag then forced ((float? s.text).map .float) "a float"
    else if tag = nullTag then forced (if isNull s.text then some .unit else none) "null"
    else if isOwn tag then .ok untagged
    else .ok (.text s.text)

/-- Why a scalar is not what is expected. -/
def Scalar.mismatch (s : Scalar) (expected : String) : Mismatch :=
  match s.found with
  | .ok x => .wrongType x expected
  | .error m => m

/-- A plain scalar, whatever its tag, or a literal one with the given tag. -/
def Scalar.bare (s : Scalar) (tag : TagText) : Bool :=
  s.style == .plain || (s.style == .literal && s.tag == some tag)

/-- An empty plain scalar stands for an empty collection. -/
def Scalar.isVoid (s : Scalar) : Bool := s.text.isEmpty && s.style == .plain

end BenchRoster.Yaml
