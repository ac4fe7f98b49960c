/-
# Conditions of a shell

The expressions of `test`: conditions on texts, numbers and files, joined by operators.  How a word
is understood depends on how many words there are and on what comes after it.
-/
import BenchRoster.Process
import BenchRoster.Tool.Numeral

namespace BenchRoster.Shell.Condition

/-- The kinds of operators. -/
inductive Kind where
  | unary
  | binary
  | negation
  | both
  | either
  | opening
  | closing
deriving DecidableEq

/-- The kind of an operator. -/
def kind? (word : String) : Option Kind :=
  if ["-r", "-w", "-x", "-e", "-f", "-d", "-c", "-b", "-p", "-u", "-g", "-k", "-s", "-t", "-z",
      "-n", "-h", "-O", "-G", "-L", "-S"].contains word then some .unary
  else if ["=", "!=", "<", ">", "-eq", "-ne", "-ge", "-gt", "-le", "-lt", "-nt", "-ot",
      "-ef"].contains word then some .binary
  else
    match word with
    | "!" => some .negation
    | "-a" => some .both
    | "-o" => some .either
    | "(" => some .opening
    | ")" => some .closing
    | _ => none

/-- What the first of some words is understood as; nothing if there is no word. -/
inductive Role where
  | operator (k : Kind)
  | operand
  | missing
deriving DecidableEq

/-- A word that looks like an operator on one operand is none before another operator, or at the
end. -/
def isOperand (after : List String) : Bool :=
  match after with
  | [] => true
  | [_] => false
  | a :: _ => kind? a == some .binary

def roleOf (words : List String) : Role :=
  match words with
  | [] => .missing
  | w :: after =>
    match kind? w with
    | some .unary => if isOperand after then .operand else .operator .unary
    | some .opening => if after.isEmpty then .operand else .operator .opening
    | some k => .operator k
    | none => .operand

/-- The number of an operand. -/
def number (text : String) : Except String Int :=
  let n := Tool.readDecimal text.toList
  if n.found && n.rest.all Tool.isSpace && n.signed.2 then .ok n.signed.1
  else .error s!"Illegal number: {text}"

/-- A condition on one operand. -/
def unary (p : Process) (o a : String) : Except String Bool :=
  let found := p.find a
  let holds (f : Entry → Bool) : Bool :=
    match found with
    | .ok (_, e) => f e
    | .error _ => false
  let hasBits (bits : Nat) : Bool := holds fun e =>
    match e with
    | .file mode _ => mode &&& bits != 0
    | _ => false
  let isDevice (e : Entry) : Bool := e == .nullDevice || e == .zeroDevice
  match o with
  | "-n" => .ok (a != "")
  | "-z" => .ok (a == "")
  | "-f" => .ok (holds Entry.isFile)
  | "-d" => .ok (holds fun e => e == .directory)
  | "-c" => .ok (holds isDevice)
  | "-x" => .ok (holds fun e => e.isExecutable || e == .directory)
  | "-s" => .ok (holds fun e =>
    match e with
    | .file _ content => !content.isEmpty
    | e => !isDevice e)
  | "-u" => .ok (hasBits 0o4000)
  | "-g" => .ok (hasBits 0o2000)
  | "-k" => .ok (hasBits 0o1000)
  | "-t" => (number a).map fun _ => false
  | _ => .ok (["-e", "-r", "-w", "-O", "-G"].contains o && holds fun _ => true)

/-- A condition on two operands. -/
def binary (p : Process) (a o b : String) : Except String Bool := do
  let numbers (f : Int → Int → Bool) : Except String Bool := return f (← number a) (← number b)
  match o with
  | "=" => return a == b
  | "!=" => return a != b
  | "<" => return decide (a < b)
  | ">" => return decide (b < a)
  | "-eq" => numbers fun x y => x == y
  | "-ne" => numbers fun x y => x != y
  | "-lt" => numbers fun x y => x < y
  | "-le" => numbers fun x y => x ≤ y
  | "-gt" => numbers fun x y => x > y
  | "-ge" => numbers fun x y => x ≥ y
  | "-ef" =>
    match p.find a, p.find b with
    | .ok (x, _), .ok (y, _) => return x == y
    | _, _ => return false
  | _ => return false

/-- A complaint about a word, which is left out if it is empty. -/
def complaint (word text : String) : String := if word = "" then text else s!"{word}: {text}"

mutual

/-- Conditions joined by `-o`.  The answer has the words from the last one on that was used. -/
def disjunction (p : Process) : Nat → Role → List String → Except String (Bool × List String)
  | 0, _, ws => .ok (false, ws)
  | n + 1, role, ws => do
    let (v, ws) ← conjunction p n role ws
    if roleOf ws.tail = .operator .either then
      let ws := ws.drop 2
      let (w, ws) ← disjunction p n (roleOf ws) ws
      return (v || w, ws)
    else return (v, ws)

/-- Conditions joined by `-a`. -/
def conjunction (p : Process) : Nat → Role → List String → Except String (Bool × List String)
  | 0, _, ws => .ok (false, ws)
  | n + 1, role, ws => do
    let (v, ws) ← negation p n role ws
    if roleOf ws.tail = .operator .both then
      let ws := ws.drop 2
      let (w, ws) ← conjunction p n (roleOf ws) ws
      return (v && w, ws)
    else return (v, ws)

/-- A condition with perhaps a negation before it. -/
def negation (p : Process) : Nat → Role → List String → Except String (Bool × List String)
  | 0, _, ws => .ok (false, ws)
  | n + 1, role, ws => do
    if role = .operator .negation then
      let role := roleOf ws.tail
      let (v, ws) ← negation p n role (if role = .missing then ws else ws.tail)
      return (!v, ws)
    else primary p n role ws

/-- A single condition. -/
def primary (p : Process) : Nat → Role → List String → Except String (Bool × List String)
  | 0, _, ws => .ok (false, ws)
  | n + 1, role, ws => do
    match role, ws with
    | .missing, ws => return (false, ws)
    | .operator .opening, ws =>
      let ws := ws.tail
      match roleOf ws with
      | .operator .closing => return (false, ws)
      | role =>
        let (v, ws) ← disjunction p n role ws
        let ws := ws.tail
        if roleOf ws = .operator .closing then return (v, ws)
        else .error "closing paren expected"
    | .operator .unary, o :: ws =>
      match ws with
      | [] => .error (complaint o "argument expected")
      | a :: _ => return (← unary p o a, ws)
    | _, a :: ws =>
      if roleOf ws = .operator .binary then
        match ws with
        | o :: b :: rest => return (← binary p a o b, b :: rest)
        | [o] => .error (complaint o "argument expected")
        | [] => return (a != "", [a])
      else return (a != "", a :: ws)
    | _, [] => return (false, [])

end

/-- The value of all words, of which none may be left. -/
def whole (p : Process) (role : Role) (ws : List String) : Except String Bool := do
  match ← disjunction p (8 * ws.length + 8) role ws with
  | (v, _ :: []) => return v
  | (v, []) => return v
  | (_, a :: _) => .error (complaint a "unexpected operator")

/-- Whether a condition holds, or what is wrong with it. -/
def holds (p : Process) : List String → Except String Bool
  | [] => .ok false
  | [a, o, b] =>
    if kind? o = some .binary then whole p .operand [a, o, b]
    else if a = "(" ∧ b = ")" then whole p (roleOf [o]) [o]
    else if a = "!" then (holds p [o, b]).map (!·)
    else whole p (roleOf [a, o, b]) [a, o, b]
  | [a, b, c, d] =>
    if a = "(" ∧ d = ")" then whole p (roleOf [b, c]) [b, c]
    else if a = "!" then (holds p [b, c, d]).map (!·)
    else whole p (roleOf [a, b, c, d]) [a, b, c, d]
  | ws => whole p (roleOf ws) ws

end BenchRoster.Shell.Condition
