/-
# Binary floating point numbers of 64 bits

The magnitude of such a number is a fraction `m * 2 ^ e` with at most 53 bits in `m`, or
infinity.  Rounding takes an exact fraction to the nearest such number, a tie to the even one;
products and quotients are exact results, rounded once.
-/
import BenchRoster.Decimal.Power

namespace BenchRoster

/-- A number without its sign. -/
inductive Magnitude where
  /-- The number `m * 2 ^ e`. -/
  | finite (m : Nat) (e : Int)
  | infinite
deriving DecidableEq, Repr

namespace Magnitude

/-- The least exponent of two. -/
def minExponent : Int := -1074

/-- The greatest exponent of two that goes with 53 bits. -/
def maxExponent : Int := 971

/-- The fraction `num / den` divided by `2 ^ e`, again as a fraction. -/
def scale (num den : Nat) (e : Int) : Nat × Nat :=
  if 0 ≤ e then (num, den * twoTo e.toNat) else (num * twoTo (-e).toNat, den)

/-- The nearest whole number to `num / den`, a tie to the even one. -/
def roundDiv (num den : Nat) : Nat :=
  let q := num / den
  let r := num % den
  if 2 * r < den then q
  else if den < 2 * r then q + 1
  else if q % 2 = 0 then q else q + 1

/-- The exponent of two with which `num / den` has 53 bits, or the least one. -/
def exponentOf (num den : Nat) : Int :=
  let e := max ((Nat.log2 num : Int) - (Nat.log2 den : Int) - 53) minExponent
  let (n, d) := scale num den e
  if twoTo 53 * d ≤ n then e + 1 else e

/-- The number nearest to `num / den`. -/
def round (num den : Nat) : Magnitude :=
  if num = 0 then .finite 0 minExponent
  else
    let e := exponentOf num den
    let (n, d) := scale num den e
    let m := roundDiv n d
    -- rounding up may need one bit more
    let (m, e) := if m = twoTo 53 then (twoTo 52, e + 1) else (m, e)
    if maxExponent < e then .infinite else .finite m e

/-- A whole number, rounded. -/
def ofNat (n : Nat) : Magnitude := round n 1

/-- The decimal `digits * 10 ^ exponent`, rounded once. -/
def ofDecimal (digits : Nat) (exponent : Int) : Magnitude :=
  if 0 ≤ exponent then round (digits * tenTo exponent.toNat) 1
  else round digits (tenTo (-exponent).toNat)

/-- A finite number as an exact fraction. -/
def toFraction (m : Nat) (e : Int) : Nat × Nat :=
  if 0 ≤ e then (m * twoTo e.toNat, 1) else (m, twoTo (-e).toNat)

/-- The product of two numbers. -/
def mul : Magnitude → Magnitude → Magnitude
  | .finite a e, .finite b f => let (n, d) := toFraction (a * b) (e + f); round n d
  | _, _ => .infinite

/-- The quotient of two numbers, the second of them not zero. -/
def div : Magnitude → Magnitude → Magnitude
  | .finite a e, .finite b f => let (n, d) := toFraction a (e - f); round n (d * b)
  | _, _ => .infinite

def isFinite : Magnitude → Bool
  | .finite _ _ => true
  | .infinite => false

def isZero : Magnitude → Bool
  | .finite m _ => m == 0
  | .infinite => false

/-- One half, one and a third: exact and rounded results. -/
example : round 1 2 = .finite (twoTo 52) (-53) ∧ round 1 1 = .finite (twoTo 52) (-52) ∧
    round 1 3 = .finite 6004799503160661 (-54) := by decide +kernel

/-- The ends of the range. -/
example : ofDecimal 5 (-324) = .finite 1 (-1074) ∧ ofDecimal 2 (-324) = .finite 0 (-1074) ∧
    ofDecimal 17976931348623157 292 = .finite (twoTo 53 - 1) 971 ∧ ofDecimal 1 309 = .infinite := by
  decide +kernel

end Magnitude

/-- A floating point number with its sign. -/
inductive Float64 where
  | number (negative : Bool) (size : Magnitude)
  | notANumber
deriving DecidableEq, Repr

end BenchRoster
