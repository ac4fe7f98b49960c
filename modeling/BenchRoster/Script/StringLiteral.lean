/-
# String literals of scripts

Inlined values are pieces of JavaScript.  This module reads a string literal in single quotes as the
grammar of that language has it: which text the literal denotes, and what follows it.  A text is
a list of UTF-16 code units here, since an escape can denote one half of a surrogate pair.
-/
import BenchRoster.Text.Digits

namespace BenchRoster.Script

/-- The code units of a code point. -/
def pointUnits (n : Nat) : List Nat :=
  if n < 0x10000 then [n]
  else [0xD800 + (n - 0x10000) / 0x400, 0xDC00 + (n - 0x10000) % 0x400]

/-- The code units of a character. -/
def codeUnits (c : Char) : List Nat := pointUnits c.toNat

/-- The code units of a text. -/
def textUnits (cs : List Char) : List Nat := cs.flatMap codeUnits

/-- The character that stands for a control or for itself behind a backslash. -/
def simpleEscape (c : Char) : Char :=
  match c with
  | 'b' => '\x08'
  | 'f' => '\x0c'
  | 'n' => '\n'
  | 'r' => '\r'
  | 't' => '\t'
  | 'v' => '\x0b'
  | c => c

/-- Reads what follows a backslash: the denoted units, and the number of characters. -/
def escape? : List Char → Option (List Nat × Nat)
  | [] => none
  | '\r' :: '\n' :: _ => some ([], 2)
  | 'x' :: rest => (Text.number? 16 (rest.take 2)).bind fun n =>
      if (rest.take 2).length = 2 then some ([n], 3) else none
  | 'u' :: '\x7b' :: rest =>
    let digits := rest.takeWhile (· ≠ '\x7d')
    if digits.length < rest.length then
      (Text.number? 16 digits).bind fun n =>
        if n < 0x110000 then some (pointUnits n, digits.length + 3) else none
    else none
  | 'u' :: rest => (Text.number? 16 (rest.take 4)).bind fun n =>
      if (rest.take 4).length = 4 then some ([n], 5) else none
  | '0' :: rest => if (rest.head?.any Char.isDigit) then none else some ([0], 1)
  | c :: _ =>
    if c = '\n' ∨ c = '\r' ∨ c = '\u2028' ∨ c = '\u2029' then some ([], 1)
    else if '1' ≤ c ∧ c ≤ '9' then none
    else some (codeUnits (simpleEscape c), 1)

/-- Reads the characters up to the closing quote; the fuel bounds the number of steps. -/
def readCharacters : Nat → List Char → Option (List Nat × List Char)
  | 0, _ => none
  | _ + 1, [] => none
  | n + 1, c :: cs =>
    if c = '\'' then some ([], cs)
    else if c = '\n' ∨ c = '\r' then none
    else if c = '\\' then
      (escape? cs).bind fun e =>
        (readCharacters n (cs.drop e.2)).map fun r => (e.1 ++ r.1, r.2)
    else (readCharacters n cs).map fun r => (codeUnits c ++ r.1, r.2)

/-- Reads a literal in single quotes: the text that it denotes, and what follows it. -/
def readLiteral : List Char → Option (List Nat × List Char)
  | '\'' :: cs => readCharacters (cs.length + 1) cs
  | _ => none

example : readLiteral ['\'', 'a', '\\', 'n', '\'', ';'] = some ([97, 10], [';']) := by decide

end BenchRoster.Script
