/-
# Sets of characters

Character sets as expressions.  What a pattern is held against consists of ASCII characters only.
So a property of characters is kept as the part of it that matters for them: its ASCII members, and
whether the two other characters that fold to ASCII letters, the long s U+017F and the Kelvin sign
U+212A, belong to it.
-/

namespace BenchRoster

/-- How much room the part of a set beyond ASCII takes in a compiled pattern, when texts are read
forward and when they are read backward, in bytes. -/
structure Bulk where
  forward : Nat := 0
  backward : Nat := 0
deriving DecidableEq, Repr

namespace Bulk

def plus (a b : Bulk) : Bulk := ⟨a.forward + b.forward, a.backward + b.backward⟩
def minus (a b : Bulk) : Bulk := ⟨a.forward - b.forward, a.backward - b.backward⟩
def least (a b : Bulk) : Bulk := ⟨min a.forward b.forward, min a.backward b.backward⟩

/-- Everything beyond ASCII. -/
def whole : Bulk := ⟨408, 928⟩

end Bulk

/-- A set of characters. -/
inductive CharSet where
  | none
  /-- The characters between two bounds, both included. -/
  | range (low high : Char)
  /-- What matters of a property, as ranges of code points, with the bulk of the property and of
  its complement. -/
  | property (members : List (Nat × Nat)) (inside outside : Bulk)
  | union (a b : CharSet)
  | inter (a b : CharSet)
  | diff (a b : CharSet)
  | symmDiff (a b : CharSet)
  | compl (a : CharSet)
  /-- Letters of either case count as each other. -/
  | foldCase (a : CharSet)
  /-- ASCII letters of either case count as each other. -/
  | foldAscii (a : CharSet)
deriving DecidableEq, Repr

namespace CharSet

/-- The letter in the other case. -/
def otherCase (c : Char) : Char := if c.isUpper then c.toLower else c.toUpper

/-- The characters that differ from a character in case only, itself included. -/
def caseVariants (c : Char) : List Char :=
  if c = 's' ∨ c = 'S' ∨ c = '\u017f' then ['s', 'S', '\u017f']
  else if c = 'k' ∨ c = 'K' ∨ c = '\u212a' then ['k', 'K', '\u212a']
  else [c, otherCase c]

/-- Whether a set has a character. -/
def has : CharSet → Char → Bool
  | none, _ => false
  | range low high, c => low ≤ c && c ≤ high
  | property members _ _, c => members.any fun r => r.1 ≤ c.toNat && c.toNat ≤ r.2
  | union a b, c => a.has c || b.has c
  | inter a b, c => a.has c && b.has c
  | diff a b, c => a.has c && !b.has c
  | symmDiff a b, c => a.has c != b.has c
  | compl a, c => !a.has c
  | foldCase a, c => (caseVariants c).any fun d => a.has d
  | foldAscii a, c => a.has c || a.has (otherCase c)

def single (c : Char) : CharSet := range c c

/-- The characters of a list. -/
def ofList : List Char → CharSet
  | [] => none
  | c :: cs => union (single c) (ofList cs)

/-- The sets of a list, together. -/
def unionOf : List CharSet → CharSet
  | [] => none
  | [s] => s
  | s :: ss => union s (unionOf ss)

def all : CharSet := compl none
def digit : CharSet := range '0' '9'
def lower : CharSet := range 'a' 'z'
def upper : CharSet := range 'A' 'Z'
def letter : CharSet := union lower upper
def letterOrDigit : CharSet := union letter digit
/-- The characters of words: letters, digits and the low line. -/
def word : CharSet := union letterOrDigit (single '_')
def space : CharSet := union (range '\t' '\r') (single ' ')
def punctuation : CharSet :=
  union (range '!' '/') (union (range ':' '@') (union (range '[' '\x60') (range '\x7b' '~')))

theorem has_single {c d : Char} : (single d).has c = true ↔ c = d := by
  simp only [single, has, Bool.and_eq_true, decide_eq_true_eq]
  exact ⟨fun h => Char.le_antisymm h.2 h.1, fun h => h ▸ ⟨Char.le_refl _, Char.le_refl _⟩⟩

theorem has_ofList {c : Char} {cs : List Char} : (ofList cs).has c = true ↔ c ∈ cs := by
  induction cs with
  | nil => simp [ofList, has]
  | cons d cs ih => rw [ofList, has, Bool.or_eq_true, has_single, ih, List.mem_cons]

theorem has_unionOf {c : Char} {ss : List CharSet} :
    (unionOf ss).has c = true ↔ ∃ s ∈ ss, s.has c = true := by
  induction ss with
  | nil => simp [unionOf, has]
  | cons s ss ih =>
    cases ss with
    | nil => simp [unionOf]
    | cons t ts =>
      rw [unionOf, has, Bool.or_eq_true, ih]
      · simp
      · simp

/-! ## Extent -/

def asciiChars : List Char := (List.range 128).map Char.ofNat

/-- The number of runs of `true`. -/
def runs : Bool → List Bool → Nat
  | _, [] => 0
  | before, b :: bs => (if b && !before then 1 else 0) + runs b bs

/-- How many ranges the ASCII characters of a set form. -/
def asciiRanges (s : CharSet) : Nat := runs false (asciiChars.map s.has)

/-- The bulk of a few characters beyond ASCII. -/
def few : Bulk := ⟨112, 132⟩

/-- What folding adds beyond ASCII to a set that has these ASCII letters. -/
def foldBulk (s : CharSet) : Bulk :=
  let longS := s.has 's' || s.has 'S'
  let kelvin := s.has 'k' || s.has 'K'
  match longS, kelvin with
  | false, false => {}
  | true, false => few
  | false, true => ⟨152, 164⟩
  | true, true => ⟨192, 232⟩

/-- The estimated bulk beyond ASCII of a set, or of its complement. -/
def bulk : CharSet → Bool → Bulk
  | none, false => {}
  | none, true => .whole
  | range _ high, complement =>
    let b : Bulk := if high.toNat < 128 then {} else few
    if complement then Bulk.whole.plus b else b
  | property _ inside outside, complement => if complement then outside else inside
  | union a b, false => (a.bulk false).plus (b.bulk false)
  | union a b, true => ((a.bulk true).plus (b.bulk true)).minus .whole
  | inter a b, false => (a.bulk false).least (b.bulk false)
  | inter a b, true => (a.bulk true).plus (b.bulk true)
  | diff a b, false => (a.bulk false).least (b.bulk true)
  | diff a b, true => (a.bulk true).plus (b.bulk false)
  | symmDiff a b, complement => (a.bulk complement).plus (b.bulk false)
  | compl a, complement => a.bulk !complement
  | foldCase a, complement => (a.bulk complement).plus a.foldBulk
  | foldAscii a, complement => a.bulk complement

/-- A set that has no characters beyond ASCII. -/
def isAscii (s : CharSet) : Bool := s.bulk false == {}

/-- How many bytes a set takes as a literal, if it has one character only. -/
def literalBytes? (s : CharSet) : Option Nat :=
  if s.isAscii then if (asciiChars.filter s.has).length = 1 then some 1 else Option.none
  else
    match s with
    | range low high => if low = high then some low.utf8Size else Option.none
    | _ => Option.none

end CharSet

end BenchRoster
