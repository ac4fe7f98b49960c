/-
# Expressions of line editors

Expressions for parts of lines, in which a letter stands for itself, a full stop for any octet,
brackets for one of some octets, and an asterisk for repetition.  In basic expressions the other
operators are written with backslashes, in extended ones without.  Of all matches that begin first,
the longest is taken.
-/
import BenchRoster.Text.Digits
import BenchRoster.Tool.Translate

namespace BenchRoster.Tool

/-- A set of octets in brackets. -/
structure Choice where
  negated : Bool
  ranges : List (Char × Char)
  classes : List String
deriving DecidableEq

/-- The two octets are the same, or the same letter in another case. -/
def sameLetter (foldCase : Bool) (c d : Char) : Bool :=
  c == d || (foldCase && c.toLower == d.toLower)

def Choice.has (s : Choice) (foldCase : Bool) (c : Char) : Bool :=
  let here (c : Char) : Bool :=
    s.ranges.any (fun r => r.1 ≤ c && c ≤ r.2) ||
      s.classes.any fun name => ((Translate.classOf? name).getD fun _ => false) c
  (here c || (foldCase && (here c.toLower || here c.toUpper))) != s.negated

inductive Expression where
  | empty
  | octet (c : Char)
  | any
  | choice (s : Choice)
  | lineStart
  | lineEnd
  /-- Between an octet of a word and one of no word; if `inside`, not so. -/
  | wordEdge (inside : Bool)
  | wordStart
  | wordEnd
  | both (a b : Expression)
  | either (a b : Expression)
  | times (least : Nat) (most : Option Nat) (a : Expression)
  | group (number : Nat) (a : Expression)
  /-- The same text as a group. -/
  | again (number : Nat)
deriving DecidableEq

namespace Expression

/-- The number of groups. -/
def groups : Expression → Nat
  | both a b => a.groups + b.groups
  | either a b => a.groups + b.groups
  | times _ _ a => a.groups
  | group _ a => a.groups + 1
  | _ => 0

/-! ## Matching -/

/-- A place in a line with what the groups have matched on the way. -/
structure Spot where
  before : Option Char
  after : List Char
  groups : List (Nat × List Char) := []

def isWord (c : Char) : Bool := c.isAlphanum || c == '_'

def Spot.wordBefore (s : Spot) : Bool := (s.before.map isWord).getD false

def Spot.wordAfter (s : Spot) : Bool := (s.after.head?.map isWord).getD false

/-- Drops places that come again. -/
def distinct (spots : List Spot) : List Spot :=
  (spots.foldl (fun (acc : List Spot × List Nat) s =>
    let n := s.after.length
    if acc.2.contains n then acc else (s :: acc.1, n :: acc.2)) ([], [])).1.reverse

/-- The places after so many steps at least and at most; a step that takes nothing is no
progress. -/
def repeats (step : Spot → List Spot) : Nat → Nat → Option Nat → List Spot → List Spot
  | 0, _, _, spots => spots
  | fuel + 1, least, most, spots =>
    if most = some 0 ∨ spots.isEmpty then spots
    else
      let next := distinct (spots.flatMap fun s =>
        (step s).filter fun t => 0 < least || t.after.length < s.after.length)
      let later := repeats step fuel (least - 1) (most.map (· - 1)) next
      if least = 0 then distinct (later ++ spots) else later

/-- The places at which a match from here can end. -/
def ends (foldCase : Bool) : Expression → Spot → List Spot
  | empty, s => [s]
  | octet c, s =>
    match s.after with
    | d :: ds => if sameLetter foldCase c d then [{ s with before := some d, after := ds }] else []
    | [] => []
  | any, s =>
    match s.after with
    | d :: ds => [{ s with before := some d, after := ds }]
    | [] => []
  | choice set, s =>
    match s.after with
    | d :: ds => if set.has foldCase d then [{ s with before := some d, after := ds }] else []
    | [] => []
  | lineStart, s => if s.before.isNone then [s] else []
  | lineEnd, s => if s.after.isEmpty then [s] else []
  | wordEdge inside, s => if (s.wordBefore != s.wordAfter) != inside then [s] else []
  | wordStart, s => if !s.wordBefore && s.wordAfter then [s] else []
  | wordEnd, s => if s.wordBefore && !s.wordAfter then [s] else []
  | both a b, s => distinct ((ends foldCase a s).flatMap (ends foldCase b))
  | either a b, s => distinct (ends foldCase a s ++ ends foldCase b s)
  | times least most a, s => repeats (ends foldCase a) (s.after.length + least + 1) least most [s]
  | group n a, s =>
    (ends foldCase a s).map fun t =>
      { t with groups := (n, s.after.take (s.after.length - t.after.length)) :: t.groups }
  | again n, s =>
    match s.groups.lookup n with
    | none => []
    | some text =>
      if text.isEmpty then [s]
      else if (s.after.take text.length).length = text.length ∧
          (s.after.zip text).all (fun p => sameLetter foldCase p.1 p.2) then
        [{ s with before := text.getLast?, after := s.after.drop text.length }]
      else []

/-- The longest match from a place. -/
def longest (foldCase : Bool) (e : Expression) (s : Spot) : Option Spot :=
  (ends foldCase e s).foldl (fun best t =>
    match best with
    | none => some t
    | some b => if t.after.length < b.after.length then some t else some b) none

/-- A match in a line. -/
structure Match where
  skipped : List Char
  matched : List Char
  groups : List (Nat × List Char)
  /-- The octet before the rest, and the rest. -/
  before : Option Char
  rest : List Char

/-- The first match, and of those the longest; the octets that were skipped come newest first. -/
def findFrom (foldCase : Bool) (e : Expression) (before : Option Char) (skipped : List Char) :
    List Char → Option Match
  | [] => (longest foldCase e ⟨before, [], []⟩).map fun t =>
      ⟨skipped.reverse, [], t.groups, before, []⟩
  | c :: cs =>
    match longest foldCase e ⟨before, c :: cs, []⟩ with
    | some t =>
      let matched := (c :: cs).take (cs.length + 1 - t.after.length)
      some ⟨skipped.reverse, matched, t.groups, matched.getLast?.or before, t.after⟩
    | none => findFrom foldCase e (some c) (c :: skipped) cs

def find? (foldCase : Bool) (e : Expression) (line : List Char) : Option Match :=
  findFrom foldCase e none [] line

/-! ## Reading -/

/-- Why an expression cannot be read. -/
inductive Flaw where
  | unmatchedBracket
  | unmatchedOpening
  | unmatchedClosing
  | trailingBackslash
  | invalidReference
  | invalidRange
  | invalidClass
  | invalidContent
  | nothingToRepeat
  | unmatchedBrace
deriving DecidableEq

def Flaw.message : Flaw → String
  | unmatchedBracket => "unterminated address regex"
  | unmatchedOpening => "Unmatched ( or \\("
  | unmatchedClosing => "Unmatched ) or \\)"
  | trailingBackslash => "Trailing backslash"
  | invalidReference => "Invalid back reference"
  | invalidRange => "Invalid range end"
  | invalidClass => "Invalid character class name"
  | invalidContent => "Invalid content of \\\x7b\\\x7d"
  | nothingToRepeat => "Invalid preceding regular expression"
  | unmatchedBrace => "Unmatched \x7b or \\\x7b"

/-- What stands up to a delimiter and a closing bracket, and what comes after them. -/
def upTo? (delimiter : Char) : List Char → Option (List Char × List Char)
  | a :: b :: cs =>
    if a = delimiter ∧ b = ']' then some ([], cs)
    else (upTo? delimiter (b :: cs)).map fun (inner, rest) => (a :: inner, rest)
  | _ => none

/-- Reads the octets of a bracket; `first` is at its start. -/
def readChoice (s : Choice) : Nat → Bool → List Char → Except Flaw (Choice × List Char)
  | 0, _, _ => .error .unmatchedBracket
  | _ + 1, _, [] => .error .unmatchedBracket
  | n + 1, first, c :: cs =>
    if c = ']' ∧ !first then .ok (s, cs)
    else
      match c, cs with
      | '[', ':' :: r =>
        match upTo? ':' r with
        | some (name, rest) =>
          let name := String.ofList name
          if (Translate.classOf? name).isSome then
            readChoice { s with classes := name :: s.classes } n false rest
          else .error .invalidClass
        | none => .error .unmatchedBracket
      | c, '-' :: d :: rest =>
        if d = ']' then readChoice { s with ranges := (c, c) :: s.ranges } n false cs
        else if d < c then .error .invalidRange
        else readChoice { s with ranges := (c, d) :: s.ranges } n false rest
      | c, cs => readChoice { s with ranges := (c, c) :: s.ranges } n false cs

/-- Reads the numbers between braces. -/
def readBounds (extended : Bool) (cs : List Char) :
    Except Flaw ((Nat × Option Nat) × List Char) :=
  let number (ds : List Char) : Nat := ds.foldl (fun n d => n * 10 + (d.toNat - 48)) 0
  let low := cs.takeWhile Char.isDigit
  let rest := cs.drop low.length
  let (high, rest) : Option Nat × List Char :=
    match rest with
    | ',' :: r =>
      let ds := r.takeWhile Char.isDigit
      (if ds.isEmpty then none else some (number ds), r.drop ds.length)
    | r => (some (number low), r)
  let closed? : Option (List Char) :=
    match extended, rest with
    | true, '\x7d' :: r => some r
    | false, '\\' :: '\x7d' :: r => some r
    | _, _ => none
  match closed? with
  | none => .error (if rest.isEmpty then .unmatchedBrace else .invalidContent)
  | some r =>
    if low.isEmpty ∧ high.isNone ∧ cs.head? ≠ some ',' then .error .invalidContent
    else if (high.map fun h => decide (h < number low)).getD false then .error .invalidContent
    else .ok ((number low, high), r)

/-- The repetition at the front, if there is one. -/
def repetition? (extended : Bool) (cs : List Char) :
    Except Flaw (Option ((Nat × Option Nat) × List Char)) :=
  match extended, cs with
  | _, '*' :: r => .ok (some ((0, none), r))
  | true, '+' :: r => .ok (some ((1, none), r))
  | true, '?' :: r => .ok (some ((0, some 1), r))
  | true, '\x7b' :: r => (readBounds true r).map some
  | false, '\\' :: '+' :: r => .ok (some ((1, none), r))
  | false, '\\' :: '?' :: r => .ok (some ((0, some 1), r))
  | false, '\\' :: '\x7b' :: r => (readBounds false r).map some
  | _, _ => .ok none

/-- Adds the repetitions behind an atom. -/
def repeated (extended : Bool) : Nat → Expression → List Char →
    Except Flaw (Expression × List Char)
  | 0, e, cs => .ok (e, cs)
  | n + 1, e, cs => do
    match ← repetition? extended cs with
    | some ((least, most), rest) => repeated extended n (.times least most e) rest
    | none => return (e, cs)

/-- The text at the front closes a group. -/
def closes? (extended : Bool) (cs : List Char) : Option (List Char) :=
  match extended, cs with
  | true, ')' :: r => some r
  | false, '\\' :: ')' :: r => some r
  | _, _ => none

/-- The text at the front stands between alternatives. -/
def separates? (extended : Bool) (cs : List Char) : Option (List Char) :=
  match extended, cs with
  | true, '|' :: r => some r
  | false, '\\' :: '|' :: r => some r
  | _, _ => none

/-- The octet of a letter after a backslash. -/
def controlOf? (c : Char) : Option Char :=
  match c with
  | 'n' => some '\n'
  | 't' => some '\t'
  | 'f' => some '\x0c'
  | 'v' => some '\x0b'
  | 'a' => some '\x07'
  | 'r' => some '\r'
  | _ => none

/-- A letter after a backslash that stands for a set or an edge. -/
def special? (c : Char) : Option Expression :=
  let word : List (Char × Char) := [('a', 'z'), ('A', 'Z'), ('0', '9'), ('_', '_')]
  match c with
  | 'w' => some (.choice ⟨false, word, []⟩)
  | 'W' => some (.choice ⟨true, word, []⟩)
  | 's' => some (.choice ⟨false, [], ["space"]⟩)
  | 'S' => some (.choice ⟨true, [], ["space"]⟩)
  | 'b' => some (.wordEdge false)
  | 'B' => some (.wordEdge true)
  | '<' => some .wordStart
  | '>' => some .wordEnd
  | '\x60' => some .lineStart
  | '\'' => some .lineEnd
  | _ => none

/-- What has been read: the expression, the number of groups so far, and the rest. -/
abbrev Read := Expression × Nat × List Char

mutual

/-- Reads alternatives up to the end or to a closing bracket. -/
def readEither (extended : Bool) : Nat → Nat → Nat → List Char → Except Flaw Read
  | 0, _, groups, cs => .ok (.empty, groups, cs)
  | n + 1, depth, groups, cs => do
    let (e, groups, rest) ← readRow extended n depth groups true .empty cs
    match separates? extended rest with
    | some rest =>
      let (f, groups, rest) ← readEither extended n depth groups rest
      return (.either e f, groups, rest)
    | none => return (e, groups, rest)

/-- Reads a row of repeated atoms; `first` is at its start. -/
def readRow (extended : Bool) : Nat → Nat → Nat → Bool → Expression → List Char →
    Except Flaw Read
  | 0, _, groups, _, e, cs => .ok (e, groups, cs)
  | n + 1, depth, groups, first, e, cs => do
    if cs.isEmpty ∨ (separates? extended cs).isSome then return (e, groups, cs)
    else if (closes? extended cs).isSome ∧ (0 < depth ∨ !extended) then return (e, groups, cs)
    else
      let (atom, groups, rest) ← readAtom extended n depth groups first cs
      let (atom, rest) ←
        -- an asterisk at the start of a basic expression stands for itself
        if !extended ∧ atom = .lineStart then .ok (atom, rest)
        else repeated extended (rest.length + 1) atom rest
      let atStart := !extended && atom == .lineStart
      readRow extended n depth groups atStart (if e = .empty then atom else .both e atom) rest

/-- Reads an atom. -/
def readAtom (extended : Bool) : Nat → Nat → Nat → Bool → List Char → Except Flaw Read
  | 0, _, groups, _, cs => .ok (.empty, groups, cs)
  | _ + 1, _, groups, _, [] => .ok (.empty, groups, [])
  | n + 1, depth, groups, first, c :: cs => do
    let group (inner : List Char) : Except Flaw Read := do
      let number := groups + 1
      let (e, groups, rest) ← readEither extended n (depth + 1) number inner
      match closes? extended rest with
      | some rest => return (.group number e, groups, rest)
      | none => .error .unmatchedOpening
    match c, cs with
    | '.', cs => return (.any, groups, cs)
    | '[', '^' :: cs =>
      let (s, rest) ← readChoice ⟨true, [], []⟩ (cs.length + 1) true cs
      return (.choice s, groups, rest)
    | '[', cs =>
      let (s, rest) ← readChoice ⟨false, [], []⟩ (cs.length + 1) true cs
      return (.choice s, groups, rest)
    | '^', cs =>
      if extended ∨ first then return (.lineStart, groups, cs) else return (.octet c, groups, cs)
    | '$', cs =>
      let ends := cs.isEmpty || (closes? false cs).isSome || (separates? false cs).isSome
      if extended ∨ ends then return (.lineEnd, groups, cs) else return (.octet c, groups, cs)
    | '\\', [] => .error .trailingBackslash
    | '\\', d :: cs =>
      if !extended ∧ d = '(' then group cs
      else if !extended ∧ d = ')' then .error .unmatchedClosing
      else if d.isDigit ∧ d ≠ '0' then
        let k := d.toNat - 48
        if groups < k then .error .invalidReference else return (.again k, groups, cs)
      else
        match special? d with
        | some e => return (e, groups, cs)
        | none => return (.octet ((controlOf? d).getD d), groups, cs)
    | '(', cs => if extended then group cs else return (.octet c, groups, cs)
    | ')', cs => if extended then .error .unmatchedClosing else return (.octet c, groups, cs)
    | c, cs =>
      if extended ∧ first ∧ (c = '+' ∨ c = '?') then .error .nothingToRepeat
      else if extended ∧ first ∧ c = '*' then return (.empty, groups, cs)
      else return (.octet c, groups, cs)

end

/-- Reads an expression. -/
def ofOctets (extended : Bool) (cs : List Char) : Except Flaw Expression := do
  let (e, _, rest) ← readEither extended (4 * cs.length + 8) 0 0 cs
  if rest.isEmpty then return e
  else .error .unmatchedClosing

example : ((ofOctets false "a\\(b*\\)c".toList).toOption.bind fun e =>
    (e.find? false "xabbcd".toList).map (·.groups)) = some [(1, "bb".toList)] := by
  decide +kernel

end Expression

end BenchRoster.Tool
