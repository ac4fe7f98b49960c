/-
# Floating point numbers as text

Two ways to write the shortest decimal of a number: always positional, and positional only near
one with an exponent elsewhere.  Both show a decimal point or an exponent in every finite number.
-/
import BenchRoster.Decimal.Shortest

namespace BenchRoster.Decimal

/-- The decimal digits of a number. -/
def digits (n : Nat) : List Char := (Nat.toDigits 10 n)

/-- The decimal `a * 10 ^ k` without an exponent, with at least one digit after the point. -/
def positional (a : Nat) (k : Int) : List Char :=
  let ds := digits a
  if 0 ≤ k then ds ++ List.replicate k.toNat '0' ++ ['.', '0']
  else
    let places := (-k).toNat
    if places < ds.length then
      ds.take (ds.length - places) ++ '.' :: ds.drop (ds.length - places)
    else '0' :: '.' :: List.replicate (places - ds.length) '0' ++ ds

/-- An exponent with its sign. -/
def exponent (k : Int) : List Char :=
  if 0 ≤ k then 'e' :: '+' :: digits k.toNat else 'e' :: '-' :: digits (-k).toNat

/-- The decimal `a * 10 ^ k` with one digit before the point and an exponent. -/
def scientific (a : Nat) (k : Int) : List Char :=
  match digits a with
  | [] => []
  | [d] => d :: exponent k
  | d :: ds => d :: '.' :: ds ++ exponent (k + ds.length)

/-- How floating point numbers are written. -/
structure FloatStyle where
  tie : Tie
  /-- The exponents `p` of the position just before the first digit, `a * 10 ^ k < 10 ^ p`, at
  which the positional form is used; without bounds it is used always. -/
  positionalRange : Option (Int × Int)

/-- Always positional; a tie goes up. -/
def FloatStyle.plain : FloatStyle := ⟨.up, none⟩

/-- Positional from `10 ^ -5` up to `10 ^ 16`; a tie goes to the even digit. -/
def FloatStyle.compact : FloatStyle := ⟨.even, some (-5, 16)⟩

/-- The text of a finite number. -/
def finiteText (style : FloatStyle) (m : Nat) (e : Int) : List Char :=
  if m = 0 then ['0', '.', '0']
  else
    let (a, k) := shortest style.tie m e
    match style.positionalRange with
    | none => positional a k
    | some (low, high) =>
      let p := k + (digits a).length
      if low < p ∧ p ≤ high then positional a k else scientific a k

/-- The text of a floating point number. -/
def floatText (style : FloatStyle) : Float64 → String
  | .notANumber => "NaN"
  | .number negative size =>
    let body := match size with
      | .infinite => ['i', 'n', 'f']
      | .finite m e => finiteText style m e
    String.ofList (if negative then '-' :: body else body)

end BenchRoster.Decimal
