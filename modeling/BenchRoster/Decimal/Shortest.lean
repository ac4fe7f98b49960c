/-
# The shortest decimal of a floating point number

Among the decimals that round to a given number, the one with the fewest digits is chosen, and
among those the nearest.  For each count of digits only the two neighbours of the number on that
decimal grid matter: if any point of the grid rounds to the number, so does one of them.
-/
import BenchRoster.Decimal.Binary64

namespace BenchRoster.Decimal

/-- Which of two equally near decimals is taken. -/
inductive Tie where
  | even
  | up
deriving DecidableEq, Repr

/-- The fraction `a / den` of an interval with both ends over the same denominator. -/
structure Interval where
  low : Nat
  value : Nat
  high : Nat
  den : Nat
  /-- The ends belong to the interval. -/
  closed : Bool
deriving Repr

/-- The reals that round to `m * 2 ^ e`.  Below a power of two the numbers lie twice as dense. -/
def interval (m : Nat) (e : Int) : Interval :=
  let below := if m = twoTo 52 ∧ Magnitude.minExponent < e then 1 else 2
  let (unit, den) := Magnitude.toFraction 1 (e - 2)
  { low := (4 * m - below) * unit, value := 4 * m * unit, high := (4 * m + 2) * unit,
    den := den, closed := m % 2 == 0 }

def Interval.contains (i : Interval) (num den : Nat) : Bool :=
  let a := num * i.den
  if i.closed then i.low * den ≤ a && a ≤ i.high * den
  else i.low * den < a && a < i.high * den

/-- Steps `p` up while `10 ^ (p + 1)` is at most the value. -/
def raise (num den : Nat) : Nat → Int → Int
  | 0, p => p
  | fuel + 1, p =>
    let (n, d) :=
      if 0 ≤ p + 1 then (num, den * tenTo (p + 1).toNat) else (num * tenTo (-(p + 1)).toNat, den)
    if d ≤ n then raise num den fuel (p + 1) else p

/-- The exponent `p` with `10 ^ p ≤ num / den < 10 ^ (p + 1)`. -/
def magnitudeOf (num den : Nat) : Int :=
  -- the logarithm of two to the base ten is a little less than 30103 / 100000
  let bits := (Nat.log2 num : Int) - (Nat.log2 den : Int) - 1
  raise num den 4 ((bits * 30103).fdiv 100000 - 1)

/-- The value on the grid of multiples of `10 ^ k`: the neighbour below and its distance, as a
fraction of the grid's step. -/
def gridBelow (i : Interval) (k : Int) : Nat × Nat × Nat :=
  let (n, d) :=
    if 0 ≤ k then (i.value, i.den * tenTo k.toNat) else (i.value * tenTo (-k).toNat, i.den)
  (n / d, n % d, d)

/-- The point `a * 10 ^ k` lies in the interval. -/
def onGrid (i : Interval) (k : Int) (a : Nat) : Bool :=
  if 0 ≤ k then i.contains (a * tenTo k.toNat) 1 else i.contains a (tenTo (-k).toNat)

/-- The best decimal on one grid, if there is any. -/
def pick (tie : Tie) (i : Interval) (k : Int) : Option Nat :=
  let (a, r, d) := gridBelow i k
  match onGrid i k a, onGrid i k (a + 1) with
  | false, false => none
  | true, false => some a
  | false, true => some (a + 1)
  | true, true =>
    -- both neighbours round to the number, so the nearer one is taken
    if 2 * r < d then some a
    else if d < 2 * r then some (a + 1)
    else match tie with
      | .up => some (a + 1)
      | .even => if a % 2 = 0 then some a else some (a + 1)

/-- Tries finer and finer grids. -/
def search (tie : Tie) (i : Interval) : Nat → Int → Nat × Int
  | 0, k => ((gridBelow i k).1, k)
  | fuel + 1, k =>
    match pick tie i k with
    | some a => (a, k)
    | none => search tie i fuel (k - 1)

/-- Moves zeros at the end of the digits into the exponent. -/
def dropZeros : Nat → Nat → Int → Nat × Int
  | 0, a, k => (a, k)
  | fuel + 1, a, k => if a ≠ 0 ∧ a % 10 = 0 then dropZeros fuel (a / 10) (k + 1) else (a, k)

/-- The shortest decimal `a * 10 ^ k` that rounds to the positive number `m * 2 ^ e`. -/
def shortest (tie : Tie) (m : Nat) (e : Int) : Nat × Int :=
  let i := interval m e
  let (a, k) := search tie i 17 (magnitudeOf i.value i.den)
  dropZeros 20 a k

/-- One tenth, a third, the least number, and a large power of ten. -/
example : (match Magnitude.round 1 10 with
    | .finite m e => shortest .even m e | .infinite => (0, 0)) = (1, -1) := by decide +kernel

example : (match Magnitude.round 1 3 with
    | .finite m e => shortest .even m e | .infinite => (0, 0)) = (3333333333333333, -16) := by
  decide +kernel

example : shortest .even 1 (-1074) = (5, -324) := by decide +kernel

example : (match Magnitude.ofDecimal 1 23 with
    | .finite m e => shortest .even m e | .infinite => (0, 0)) = (1, 23) := by decide +kernel

end BenchRoster.Decimal
