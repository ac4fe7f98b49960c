/-
# Translating bytes

Bytes are replaced, deleted, or squeezed where they are repeated.  A set of bytes is written as a
row of elements: bytes and escapes, ranges, named classes, and repetitions of a byte.
-/
import BenchRoster.Tool.Basic

namespace BenchRoster.Tool

namespace Translate

/-! ## Escapes -/

/-- The value of an octal digit. -/
def octal? (c : Char) : Option Nat := if '0' ≤ c ∧ c ≤ '7' then some (c.toNat - 48) else none

/-- The octet of a letter after a backslash. -/
def escape (c : Char) : Char :=
  match c with
  | 'a' => '\x07'
  | 'b' => '\x08'
  | 'f' => '\x0c'
  | 'n' => '\n'
  | 'r' => '\r'
  | 't' => '\t'
  | 'v' => '\x0b'
  | c => c

/-- Octets, with a mark at those that were escaped. -/
abbrev Marked := List (Char × Bool)

/-- Up to three octal digits as far as they give a byte, what comes after them, and the digits if
a third one would go too far. -/
def readOctal (first : Nat) (cs : List Char) : Nat × List Char × Option (Nat × Nat × Nat) :=
  match cs with
  | c :: cs =>
    match octal? c with
    | none => (first, c :: cs, none)
    | some second =>
      match cs with
      | d :: ds =>
        match octal? d with
        | none => (first * 8 + second, d :: ds, none)
        | some third =>
          let n := (first * 8 + second) * 8 + third
          if n < 256 then (n, ds, none)
          else (first * 8 + second, d :: ds, some (first, second, third))
      | [] => (first * 8 + second, [], none)
  | [] => (first, [], none)

theorem readOctal_length (first : Nat) (cs : List Char) :
    (readOctal first cs).2.1.length ≤ cs.length := by
  unfold readOctal
  dsimp only
  repeat' split
  all_goals simp only [List.length_cons, List.length_nil]
  all_goals omega

/-- Resolves escapes; some of them are worth a warning. -/
def unescape : List Char → Marked × List String
  | [] => ([], [])
  | ['\\'] =>
    ([('\\', false)], ["warning: an unescaped backslash at end of string is not portable"])
  | '\\' :: c :: cs =>
    match octal? c with
    | none => ((escape c, true) :: (unescape cs).1, (unescape cs).2)
    | some first =>
      match h : readOctal first cs with
      | (n, rest, ambiguous) =>
        have : rest.length ≤ cs.length := by
          have := readOctal_length first cs
          simp_all
        let warning : List String :=
          match ambiguous with
          | none => []
          | some (a, b, d) =>
            [s!"warning: the ambiguous octal escape \\{a}{b}{d} is being\n\tinterpreted as " ++
              s!"the 2-byte sequence \\0{a}{b}, {d}"]
        ((Char.ofNat n, true) :: (unescape rest).1, warning ++ (unescape rest).2)
  | c :: cs => ((c, false) :: (unescape cs).1, (unescape cs).2)
termination_by cs => cs.length

/-! ## Elements -/

/-- A part of a set. -/
inductive Element where
  | octet (c : Char)
  | range (first last : Char)
  | named (name : String)
  /-- A byte with all that count as equal to it, which is the byte alone. -/
  | equivalents (c : Char)
  /-- A byte so many times, or as often as is needed. -/
  | repeated (c : Char) (times : Option Nat)
deriving DecidableEq

/-- All octets. -/
def octets : List Char := (List.range 256).map Char.ofNat

/-- The membership in a named class. -/
def classOf? (name : String) : Option (Char → Bool) :=
  let isPunctuation (c : Char) : Bool := '!' ≤ c && c ≤ '~' && !c.isAlphanum
  match name with
  | "alnum" => some Char.isAlphanum
  | "alpha" => some Char.isAlpha
  | "blank" => some fun c => c == ' ' || c == '\t'
  | "cntrl" => some fun c => c < ' ' || c == '\x7f'
  | "digit" => some Char.isDigit
  | "graph" => some fun c => '!' ≤ c && c ≤ '~'
  | "lower" => some Char.isLower
  | "print" => some fun c => ' ' ≤ c && c ≤ '~'
  | "punct" => some isPunctuation
  | "space" => some fun c => c == ' ' || ('\x09' ≤ c && c ≤ '\x0d')
  | "upper" => some Char.isUpper
  | "xdigit" => some fun c => c.isDigit || ('a' ≤ c && c ≤ 'f') || ('A' ≤ c && c ≤ 'F')
  | _ => none

/-- The octets of an element in order; a repetition without a number has none yet. -/
def Element.members : Element → List Char
  | .octet c => [c]
  | .range a b => (List.range (b.toNat + 1 - a.toNat)).map fun n => Char.ofNat (a.toNat + n)
  | .named name => octets.filter ((classOf? name).getD fun _ => false)
  | .equivalents c => [c]
  | .repeated c times => List.replicate (times.getD 0) c

/-- A class of letters of one case. -/
def Element.isCase : Element → Bool
  | .named name => name == "upper" || name == "lower"
  | _ => false

def Element.isNamed : Element → Bool
  | .named _ => true
  | _ => false

/-- An octet as it is shown in a complaint. -/
def shownOctet (c : Char) : String :=
  if Tool.isShown c then String.ofList [c]
  else
    let n := c.toNat
    String.ofList ['\\', Char.ofNat (48 + n / 64), Char.ofNat (48 + n / 8 % 8),
      Char.ofNat (48 + n % 8)]

/-- The next octet is this one, and was not escaped. -/
def beginsWith (m : Marked) (c : Char) : Bool := m.head? == some (c, false)

/-- What stands before a delimiter and a closing bracket, and what comes after them. -/
def upTo? (delimiter : Char) : Marked → Option (List Char × Marked)
  | a :: b :: m =>
    if a = (delimiter, false) ∧ b = (']', false) then some ([], m)
    else (upTo? delimiter (b :: m)).map fun (cs, rest) => (a.1 :: cs, rest)
  | _ => none

/-- The end of a repetition: what stands before the closing bracket, and what comes after it. -/
def upToBracket? : Marked → Option (List Char × Marked)
  | (']', false) :: m => some ([], m)
  | (c, false) :: m => (upToBracket? m).map fun (cs, rest) => (c :: cs, rest)
  | _ => none

/-- The largest number of repetitions. -/
def maxTimes : Nat := 0xFFFFFFFFFFFFFFFE

/-- The number of repetitions; a zero in front makes it octal. -/
def times? (digits : List Char) : Option Nat :=
  let base := if digits.head? = some '0' then 8 else 10
  (digits.foldl (fun n d => n.bind fun n =>
    if d.isDigit ∧ d.toNat - 48 < base then some (n * base + (d.toNat - 48)) else none)
    (some 0)).filter (· ≤ maxTimes)

/-- A repetition after an opening bracket, if there is one. -/
def repetition? (m : Marked) : Except String (Option (Element × Marked)) :=
  match m with
  | (c, _) :: ('*', false) :: m =>
    match upToBracket? m with
    | none => .ok none
    | some ([], rest) => .ok (some (.repeated c none, rest))
    | some (digits, rest) =>
      match times? digits with
      -- no times at all means as often as is needed
      | some 0 => .ok (some (.repeated c none, rest))
      | some n => .ok (some (.repeated c (some n), rest))
      | none =>
        .error s!"invalid repeat count {quoted (String.ofList digits)} in [c*n] construct"
  | _ => .ok none

/-- The text could be the end of a repetition. -/
def endsRepetition (m : Marked) : Bool :=
  match m with
  | ('*', false) :: m =>
    let rest := m.dropWhile fun d => d.1.isDigit && !d.2
    beginsWith rest ']'
  | _ => false

/-- An element in brackets, if there is one after the opening bracket. -/
def bracketed? (m : Marked) : Except String (Option (Element × Marked)) :=
  match m with
  | (d, false) :: inner =>
    if d = ':' ∨ d = '=' then
      match upTo? d inner with
      | none => repetition? m
      | some (cs, rest) =>
        let name := String.ofList cs
        if cs = [] then
          .error (if d = ':' then "missing character class name '[::]'"
            else "missing equivalence class character '[==]'")
        else if d = ':' ∧ (classOf? name).isSome then .ok (some (.named name, rest))
        else
          match d, cs with
          | '=', [c] => .ok (some (.equivalents c, rest))
          | _, _ =>
            if endsRepetition inner then repetition? m
            else if d = ':' then .error s!"invalid character class {quoted name}"
            else .error s!"{name}: equivalence class operand must be a single character"
    else repetition? m
  | _ => repetition? m

/-- The elements of a set; so many at most. -/
def elements : Nat → Marked → Except String (List Element)
  | 0, _ => .ok []
  | _ + 1, [] => .ok []
  | n + 1, (c, escaped) :: m => do
    let bracketed ←
      if c = '[' ∧ !escaped ∧ 2 ≤ m.length then bracketed? m else .ok none
    match bracketed, m with
    | some (e, rest), _ => return e :: (← elements n rest)
    | none, ('-', false) :: (d, _) :: rest =>
      if d < c then
        let shown := s!"{shownOctet c}-{shownOctet d}"
        .error s!"range-endpoints of '{shown}' are in reverse collating sequence order"
      else return .range c d :: (← elements n rest)
    | none, m => return .octet c :: (← elements n m)

/-! ## Two sets -/

/-- The octets of a row of elements. -/
def membersOf (es : List Element) : List Char := es.flatMap Element.members

/-- Repeats a byte that is to be repeated as often as is needed. -/
def fill (length : Nat) (es : List Element) : List Element :=
  let missing := length - (membersOf es).length
  es.map fun
    | .repeated c none => .repeated c (some missing)
    | e => e

/-- The classes of letters in the second set stand opposite to such classes in the first one. -/
def casesMatch : Nat → List Element → List Element → Bool
  | 0, _, _ => true
  | _ + 1, _, [] => true
  | n + 1, es, f :: fs =>
    match es with
    | [] => !f.isCase
    | e :: es =>
      if f.isCase then e.isCase && casesMatch n es fs
      else
        -- goes on behind as many octets as both have
        let a := e.members
        let b := f.members
        let k := min a.length b.length
        let rest (e : Element) (cs : List Char) (es : List Element) : List Element :=
          match e, cs with
          | _, [] => es
          | .range _ last, c :: _ => .range c last :: es
          | .repeated c _, cs => .repeated c (some cs.length) :: es
          | _, cs => cs.map .octet ++ es
        if k = 0 then
          casesMatch n (if a.isEmpty then es else e :: es) (if b.isEmpty then fs else f :: fs)
        else casesMatch n (rest e (a.drop k) es) (rest f (b.drop k) fs)

/-- What is done with the bytes. -/
inductive Plan where
  /-- Replaces bytes by a table and squeezes some of the results. -/
  | replace (table : List (Char × Char)) (squeezed : List Char)
  /-- Deletes some bytes and squeezes some of the others. -/
  | delete (deleted squeezed : List Char)

/-- The first set as it is meant. -/
def domain (complement : Bool) (es : List Element) : List Char :=
  if complement then octets.filter fun c => !(membersOf es).contains c else membersOf es

/-- The table that takes the first set to the second one. -/
def tableOf (complement truncate : Bool) (first second : List Element) :
    Except String (List (Char × Char) × List Char) := do
  let source := domain complement first
  let second := fill source.length second
  let images := membersOf second
  if second.any fun e => e matches .equivalents _ then
    throw "[=c=] expressions may not appear in string2 when translating"
  if second.any fun e => e.isNamed && !e.isCase then
    throw ("when translating, the only character classes that may appear in\n" ++
      "string2 are 'upper' and 'lower'")
  if !complement ∧ second.any Element.isNamed ∧
      !casesMatch (source.length + images.length + first.length + second.length + 1) first
        second then
    throw "misaligned [:upper:] and/or [:lower:] construct"
  let images ←
    if source.length ≤ images.length ∨ truncate then pure images
    else
      match second.getLast? with
      | none => throw "when not truncating set1, string2 must be non-empty"
      | some e =>
        if e.isNamed then
          throw ("when translating with string1 longer than string2,\n" ++
            "the latter string must not end with a character class")
        else
          let last : Char :=
            match e with
            | .octet c => c
            | .range _ c => c
            | .named _ => ' '
            | .equivalents c => c
            | .repeated c _ => c
          pure (images ++ List.replicate (source.length - images.length) last)
  if complement ∧ first.any Element.isNamed ∧
      !(images.length = source.length ∧ images.all fun c => images.head? = some c) then
    throw ("when translating with complemented character classes,\n" ++
      "string2 must map all characters in the domain to one")
  return (source.zip images, images)

/-- What the options and the sets ask for. -/
def plan (complement delete squeeze truncate : Bool) (first : List Element)
    (second : Option (List Element)) : Except String Plan := do
  if first.any fun e => e matches .repeated _ none then
    throw "the [c*] repeat construct may not appear in string1"
  match second with
  | none =>
    let set := domain complement first
    return if delete then .delete set [] else .delete [] set
  | some second =>
    if 1 < (second.filter fun e => e matches .repeated _ none).length then
      throw "only one [c*] repeat construct may appear in string2"
    if delete then
      if second.any fun e => e matches .repeated _ none then
        throw "the [c*] construct may appear in string2 only when translating"
      return .delete (domain complement first) (membersOf second)
    else
      let (table, images) ← tableOf complement truncate first second
      return .replace table (if squeeze then images else [])

/-- Leaves one of each row of equal bytes of a set. -/
def squeezed (set : UInt8 → Bool) (b : Bytes) : Bytes :=
  (b.foldl (fun (acc : Bytes) x =>
    if acc.head? = some x ∧ set x then acc else x :: acc) []).reverse

/-- A set of octets as a test of bytes. -/
def setOf (cs : List Char) : UInt8 → Bool :=
  let members := cs.foldl (fun (a : Array Bool) c => a.set! (c.toNat % 256) true)
    (Array.replicate 256 false)
  fun b => members[b.toNat]!

/-- The bytes that take the place of bytes; the last entry of a table counts. -/
def mapOf (table : List (Char × Char)) : UInt8 → UInt8 :=
  let images := table.foldl (fun (a : Array UInt8) (c, d) =>
    a.set! (c.toNat % 256) (Octets.toByte d)) ((List.range 256).map Nat.toUInt8).toArray
  fun b => images[b.toNat]!

def Plan.carryOut (p : Plan) (s : Source) : Source :=
  match p with
  | .replace table [] => s.map (mapOf table)
  | .replace table set => .ofBytes (squeezed (setOf set) (s.map (mapOf table)).bytes)
  | .delete deleted [] => s.filter fun b => !setOf deleted b
  | .delete deleted set =>
    .ofBytes (squeezed (setOf set) (s.filter fun b => !setOf deleted b).bytes)

def switches : List Switch :=
  [⟨some 'c', "complement", .nothing⟩, ⟨some 'C', "", .nothing⟩, ⟨some 'd', "delete", .nothing⟩,
   ⟨some 's', "squeeze-repeats", .nothing⟩, ⟨some 't', "truncate-set1", .nothing⟩,
   ⟨none, "help", .nothing⟩, ⟨none, "version", .nothing⟩]

/-- What is wrong with the number of sets. -/
def misuse? (delete squeeze : Bool) (operands : List String) : Option String :=
  let least := if delete == squeeze then 2 else 1
  let most := if !delete || squeeze then 2 else 1
  match operands with
  | [] => some "missing operand"
  | operands =>
    if operands.length < least then
      let reason := if squeeze then "both deleting and squeezing repeats" else "translating"
      let last := quoted ((operands.getLast?).getD "")
      some s!"missing operand after {last}\nTwo strings must be given when {reason}."
    else if most < operands.length then
      let hint :=
        if operands.length = 2 then
          "\nOnly one string may be given when deleting without squeezing repeats."
        else ""
      some ("extra operand " ++ quoted (operands.getD most "") ++ hint)
    else none

end Translate

/-- Translates, deletes or squeezes bytes of the input. -/
def tr : Tool := fun program args =>
  withOptions Translate.switches false program args fun g => do
    let complement := g.has "c" || g.has "C"
    let delete := g.has "d"
    let squeeze := g.has "s"
    match Translate.misuse? delete squeeze g.operands with
    | some text =>
      complainOfUse program text
      return 1
    | none => pure ()
    let read (set : String) : Work (Except String (List Translate.Element)) := do
      let (marked, warnings) := Translate.unescape set.toList
      warnings.forM (complain program)
      return Translate.elements (marked.length + 1) marked
    let first ← read (g.operands.headD "")
    let second ←
      match first, g.operands.tail with
      | .ok _, s :: _ => (·.map some) <$> read s
      | _, _ => pure (.ok none)
    let outcome := do
      Translate.plan complement delete squeeze (g.has "t") (← first) (← second)
    match outcome with
    | .error e =>
      complain program e
      return 1
    | .ok p =>
      match ← readInput with
      | .error f =>
        complain program s!"read error: {f.description}"
        return 1
      | .ok s =>
        put (p.carryOut s)
        return 0

end BenchRoster.Tool
