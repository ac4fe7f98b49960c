/-
# Arithmetic of a shell

Expressions over whole numbers of 64 bits, with the usual operators, conditions and assignments.
An expression is worked out while it is read; what is not needed for the value is only read.
-/
import BenchRoster.Decimal.Power
import BenchRoster.Tool.Numeral

namespace BenchRoster.Shell.Arithmetic

/-- A piece of an expression. -/
inductive Term where
  | number (n : Int)
  | name (s : String)
  | operator (s : String)
  | stop
  | unknown
deriving DecidableEq, Inhabited

/-- The operators, longer ones first. -/
def operators : List String :=
  ["<<=", ">>=", "<<", ">>", "<=", ">=", "==", "!=", "&&", "||", "+=", "-=", "*=", "/=", "%=",
   "&=", "|=", "^=", "+", "-", "*", "/", "%", "<", ">", "=", "!", "~", "&", "|", "^", "?", ":",
   "(", ")"]

/-- The first piece of an expression, and the text after it. -/
def nextTerm (cs : List Char) : Term × List Char :=
  let cs := cs.dropWhile fun c => c == ' ' || c == '\t' || c == '\n'
  match cs with
  | [] => (.stop, [])
  | c :: _ =>
    if c.isDigit then
      let n := Tool.readNumeral cs
      (.number n.signed.1, n.rest)
    else if c.isAlpha ∨ c = '_' then
      let word := cs.takeWhile fun d => d.isAlphanum || d == '_'
      (.name (String.ofList word), cs.drop word.length)
    else
      match operators.find? fun o => o.toList.isPrefixOf cs with
      | some o => (.operator o, cs.drop o.length)
      | none => (.unknown, cs)

/-- How tightly an operator between two values binds; a smaller number is tighter. -/
def rank? (o : String) : Option Nat :=
  match o with
  | "*" => some 0
  | "/" => some 0
  | "%" => some 0
  | "+" => some 1
  | "-" => some 1
  | "<<" => some 2
  | ">>" => some 2
  | "<" => some 3
  | ">" => some 3
  | "<=" => some 3
  | ">=" => some 3
  | "==" => some 4
  | "!=" => some 4
  | "&" => some 5
  | "^" => some 6
  | "|" => some 7
  | _ => none

/-- The operator that an assignment works out first; `=` has none. -/
def assignment? (o : String) : Option (Option String) :=
  match o with
  | "=" => some none
  | "+=" => some (some "+")
  | "-=" => some (some "-")
  | "*=" => some (some "*")
  | "/=" => some (some "/")
  | "%=" => some (some "%")
  | "<<=" => some (some "<<")
  | ">>=" => some (some ">>")
  | "&=" => some (some "&")
  | "|=" => some (some "|")
  | "^=" => some (some "^")
  | _ => none

/-- The number of 64 bits that a number wraps around to. -/
def wrap (n : Int) : Int := Int.bmod n (twoTo 64)

/-- The bits of a number. -/
def bits (n : Int) : Nat := (Int.emod n (twoTo 64)).toNat

def truth (b : Bool) : Int := if b then 1 else 0

/-- The value of an operator; division goes toward zero and has none for zero. -/
def operate? (o : String) (a b : Int) : Option Int :=
  match o with
  | "*" => some (wrap (a * b))
  | "/" => if b = 0 then none else some (wrap (Int.tdiv a b))
  | "%" => if b = 0 then none else some (wrap (Int.tmod a b))
  | "+" => some (wrap (a + b))
  | "-" => some (wrap (a - b))
  | "<<" => some (wrap (a * twoTo (bits b % 64)))
  | ">>" => some (Int.fdiv a (twoTo (bits b % 64)))
  | "<" => some (truth (a < b))
  | ">" => some (truth (a > b))
  | "<=" => some (truth (a ≤ b))
  | ">=" => some (truth (a ≥ b))
  | "==" => some (truth (a == b))
  | "!=" => some (truth (a != b))
  | "&" => some (wrap (Nat.land (bits a) (bits b)))
  | "^" => some (wrap (Nat.xor (bits a) (bits b)))
  | "|" => some (wrap (Nat.lor (bits a) (bits b)))
  | _ => none

/-- Why an expression has no value. -/
inductive Fault where
  | malformed (reason : String)
  /-- The value of a variable is no number. -/
  | notNumber (value : String)
deriving DecidableEq

def Fault.message (expression : String) : Fault → String
  | malformed reason => s!"arithmetic expression: {reason}: \"{expression}\""
  | notNumber value => s!"Illegal number: {value}"

structure Progress where
  rest : List Char
  /-- The piece that was read last. -/
  last : Term := .stop
  /-- The values that were assigned, newest first. -/
  assigned : List (String × Int) := []

abbrev Work := EStateM Fault Progress

def fail {α : Type} (reason : String) : Work α := throw (.malformed reason)

/-- Reads a piece. -/
def next : Work Term := fun s =>
  let (t, rest) := nextTerm s.rest
  .ok t { s with rest, last := t }

def setLast (t : Term) : Work Unit := modify fun s => { s with last := t }

/-- The number that is the value of a variable; a variable without one counts as zero. -/
def numberOf (value : String → Option String) (name : String) : Work Int := do
  match (← get).assigned.lookup name with
  | some n => return n
  | none =>
    match value name with
    | none => return 0
    | some text =>
      let n := Tool.readNumeral text.toList
      let isBlank := n.rest.all Tool.isSpace
      if (n.found ∧ isBlank ∧ n.signed.2) ∨ (!n.found ∧ isBlank) then
        return if n.found then n.signed.1 else 0
      else throw (.notNumber text)

def apply (o : String) (a b : Int) : Work Int :=
  match operate? o a b with
  | some n => return n
  | none => fail "division by zero"

mutual

/-- The value of an operand, given its first piece and the one after it.  With `dry`, variables are
left alone. -/
def operand (value : String → Option String) : Nat → Bool → Term → Term → Work Int
  | 0, _, _, _ => fail "expecting primary"
  | n + 1, dry, t, after => do
    match t with
    | .operator "(" =>
      let v ← assignment value n dry after
      if (← get).last ≠ .operator ")" then fail "expecting ')'"
      discard next
      return v
    | .number k =>
      setLast after
      return k
    | .name s =>
      setLast after
      if dry then return 0 else numberOf value s
    | .operator "+" => operand value n dry after (← next)
    | .operator "-" => return wrap (-(← operand value n dry after (← next)))
    | .operator "!" => return truth ((← operand value n dry after (← next)) == 0)
    | .operator "~" => return wrap (-(← operand value n dry after (← next)) - 1)
    | _ => fail "expecting primary"

/-- The value of operands that are joined by operators between two values. -/
def chain (value : String → Option String) : Nat → Bool → Term → Term → Work Int
  | 0, _, _, _ => fail "expecting primary"
  | n + 1, dry, t, after => do
    let a ← operand value n dry t after
    match (← get).last with
    | .operator o => if (rank? o).isSome then chainRest value n dry 8 o a else return a
    | _ => return a

/-- Goes on with an operator as long as those that follow bind more tightly than the bound. -/
def chainRest (value : String → Option String) : Nat → Bool → Nat → String → Int → Work Int
  | 0, _, _, _, a => return a
  | n + 1, dry, bound, o, a => do
    let t ← next
    let b ← operand value n dry t (← next)
    let rank := (rank? o).getD 0
    let following : Work (Option (String × Nat)) := do
      match (← get).last with
      | .operator p => return (rank? p).map fun r => (p, r)
      | _ => return none
    let b ←
      match ← following with
      | some (p, r) => if r < rank then chainRest value n dry rank p b else pure b
      | none => pure b
    let a ← if dry then pure b else apply o a b
    match ← following with
    | some (p, r) => if r < bound then chainRest value n dry bound p a else return a
    | none => return a

/-- The value of operands that are joined by `&&`. -/
def conjunction (value : String → Option String) : Nat → Bool → Term → Term → Work Int
  | 0, _, _, _ => fail "expecting primary"
  | n + 1, dry, t, after => do
    let a ← chain value n dry t after
    if (← get).last ≠ .operator "&&" then return a
    let t ← next
    let b ← conjunction value n (dry || a == 0) t (← next)
    return truth (a != 0 && b != 0)

/-- The value of operands that are joined by `||`. -/
def disjunction (value : String → Option String) : Nat → Bool → Term → Term → Work Int
  | 0, _, _, _ => fail "expecting primary"
  | n + 1, dry, t, after => do
    let a ← conjunction value n dry t after
    if (← get).last ≠ .operator "||" then return a
    let t ← next
    let b ← disjunction value n (dry || a != 0) t (← next)
    return truth (a != 0 || b != 0)

/-- The value of a choice. -/
def choice (value : String → Option String) : Nat → Bool → Term → Term → Work Int
  | 0, _, _, _ => fail "expecting primary"
  | n + 1, dry, t, after => do
    let a ← disjunction value n dry t after
    if (← get).last ≠ .operator "?" then return a
    let b ← assignment value n (dry || a == 0) (← next)
    if (← get).last ≠ .operator ":" then fail "expecting ':'"
    let t ← next
    let c ← choice value n (dry || a != 0) t (← next)
    return if a ≠ 0 then b else c

/-- The value of an assignment, or of an expression without one. -/
def assignment (value : String → Option String) : Nat → Bool → Term → Work Int
  | 0, _, _ => fail "expecting primary"
  | n + 1, dry, t => do
    let after ← next
    match t, after with
    | .name s, .operator o =>
      match assignment? o with
      | none => choice value n dry t after
      | some op =>
        let v ← assignment value n dry (← next)
        if dry then return v
        let v ←
          match op with
          | none => pure v
          | some op => do apply op (← numberOf value s) v
        modify fun p => { p with assigned := (s, v) :: p.assigned }
        return v
    | t, after => choice value n dry t after

end

/-- The value of an expression, given those of the variables, and what was assigned, oldest
first. -/
def evaluate (value : String → Option String) (expression : List Char) :
    Except Fault (Int × List (String × Int)) :=
  let work : Work Int := do
    let v ← assignment value (8 * expression.length + 16) false (← next)
    if (← get).last ≠ .stop then fail "expecting EOF"
    return v
  match work { rest := expression } with
  | .ok v s => .ok (v, s.assigned.reverse)
  | .error f _ => .error f

/-- The value alone. -/
def valueOf? (expression : String) : Option Int :=
  ((evaluate (fun _ => some "7") expression.toList).toOption).map (·.1)

example : ["1<<4", "x?1:2", "0x1F", "017", "7&3|8", "5^1", "~5", "-7/2", "-7%3", "1==1&&0||2",
    "!3", "2+3*4-(1-2)"].map valueOf? =
    [16, 1, 31, 15, 11, 4, -6, -3, -1, 1, 0, 15].map some := by decide +kernel

example : valueOf? "1/0" = none ∧ valueOf? "08" = none ∧ valueOf? "0&&1/0" = some 0 := by
  decide +kernel

end BenchRoster.Shell.Arithmetic
