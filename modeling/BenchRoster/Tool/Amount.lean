/-
# Amounts

A number of lines or bytes as an argument: digits and perhaps a unit behind them, which multiplies.
A unit alone stands for one of it.
-/

namespace BenchRoster.Tool

/-- Why an argument is no amount. -/
inductive AmountFault where
  | malformed
  | tooLarge
deriving DecidableEq

/-- The words behind a complaint about an amount. -/
def AmountFault.ending : AmountFault → String
  | .malformed => ""
  | .tooLarge => ": Value too large for defined data type"

/-- The number that amounts have to stay below. -/
def amountBound : Nat := 0x10000000000000000

/-- The power of its base that the letter of a unit stands for. -/
def unitPower? (c : Char) : Option Nat :=
  match c with
  | 'k' => some 1
  | 'K' => some 1
  | 'm' => some 2
  | 'M' => some 2
  | 'G' => some 3
  | 'T' => some 4
  | 'P' => some 5
  | 'E' => some 6
  | 'Z' => some 7
  | 'Y' => some 8
  | 'R' => some 9
  | 'Q' => some 10
  | _ => none

/-- What a unit multiplies by. -/
def unitFactor? (unit : List Char) : Option Nat :=
  match unit with
  | [] => some 1
  | ['b'] => some 512
  | [c] => (unitPower? c).map (Nat.pow 1024)
  | [c, 'B'] => (unitPower? c).map (Nat.pow 1000)
  | [c, 'i', 'B'] => (unitPower? c).map (Nat.pow 1024)
  | _ => none

/-- The amount that an argument names. -/
def amount (s : String) : Except AmountFault Nat :=
  let isSpace (c : Char) : Bool := c == ' ' || ('\x09' ≤ c && c ≤ '\x0d')
  let cs := s.toList.dropWhile isSpace
  let cs :=
    match cs with
    | '+' :: r => r
    | r => r
  let digits := cs.takeWhile Char.isDigit
  let unit := cs.dropWhile Char.isDigit
  if digits.isEmpty ∧ unit.isEmpty then .error .malformed
  else
    match unitFactor? unit with
    | none => .error .malformed
    | some factor =>
      let number :=
        if digits.isEmpty then 1 else digits.foldl (fun n d => n * 10 + (d.toNat - 48)) 0
      if number * factor < amountBound then .ok (number * factor) else .error .tooLarge

example : (amount "5").toOption = some 5 ∧ (amount "2kB").toOption = some 2000 ∧
    (amount "k").toOption = some 1024 ∧ (amount "1x").toOption = none := by decide +kernel

end BenchRoster.Tool
