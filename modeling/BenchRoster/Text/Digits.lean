/-
# Digits

The value of a digit, and of a row of digits, in a base up to sixteen.  The letters of the larger
bases count in either case.
-/

namespace BenchRoster.Text

/-- The value of a digit in a base up to sixteen. -/
def digit? (base : Nat) (c : Char) : Option Nat :=
  let d :=
    if c.isDigit then some (c.toNat - 48)
    else if 'a' ≤ c ∧ c ≤ 'f' then some (c.toNat - 87)
    else if 'A' ≤ c ∧ c ≤ 'F' then some (c.toNat - 55)
    else none
  d.filter (· < base)

/-- The value of digits, at least one. -/
def number? (base : Nat) : List Char → Option Nat
  | [] => none
  | cs => cs.foldl (fun n c => n.bind fun n => (digit? base c).map (n * base + ·)) (some 0)

/-- A digit is smaller than its base. -/
theorem digit?_lt {base : Nat} {c : Char} {d : Nat} (h : digit? base c = some d) : d < base := by
  unfold digit? at h
  simpa using (Option.filter_eq_some_iff.1 h).2

end BenchRoster.Text
