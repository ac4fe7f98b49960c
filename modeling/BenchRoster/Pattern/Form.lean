/-
# Forms of patterns

The written form of a pattern as a tree, every part of it with the place where it stands.  The form
keeps what the reader saw, before flags and names of properties are given a meaning.  Parts may
stand inside each other only so deep.
-/
import BenchRoster.Pattern
import BenchRoster.Pattern.Fault

namespace BenchRoster.Pattern

/-- The sets with a letter of their own. -/
inductive ShortSet where
  | digit
  | space
  | word
deriving DecidableEq, Repr

/-- How a property is named: by its own name, or by the name of a property and a value of it. -/
inductive PropertyQuery where
  | named (name : String)
  | valued (name value : String)
deriving DecidableEq, Repr

/-- A character as it is written; `asByte` tells that it is written as a byte of two digits. -/
structure Literal where
  span : Span
  char : Char
  asByte : Bool := false
deriving DecidableEq, Repr

/-- What stands for itself or is escaped. -/
inductive Atom where
  | literal (l : Literal)
  | short (span : Span) (negated : Bool) (s : ShortSet)
  | property (span : Span) (negated : Bool) (q : PropertyQuery)
  | anchor (span : Span) (a : Anchor)
deriving DecidableEq, Repr

def Atom.span : Atom → Span
  | literal l => l.span
  | short s _ _ => s
  | property s _ _ => s
  | anchor s _ => s

/-- The operations on sets inside brackets. -/
inductive SetOperation where
  | intersection
  | difference
  | symmetricDifference
deriving DecidableEq, Repr

/-- A set inside brackets. -/
inductive SetForm where
  | empty (span : Span)
  | literal (l : Literal)
  | range (span : Span) (low high : Literal)
  /-- A named set of ASCII characters. -/
  | named (span : Span) (negated : Bool) (members : CharSet)
  | short (span : Span) (negated : Bool) (s : ShortSet)
  | property (span : Span) (negated : Bool) (q : PropertyQuery)
  | bracketed (span : Span) (negated : Bool) (s : SetForm)
  | union (span : Span) (items : List SetForm)
  | operation (span : Span) (op : SetOperation) (left right : SetForm)
deriving Repr

def SetForm.span : SetForm → Span
  | empty s => s
  | literal l => l.span
  | range s _ _ => s
  | named s _ _ => s
  | short s _ _ => s
  | property s _ _ => s
  | bracketed s _ _ => s
  | union s _ => s
  | operation s _ _ _ => s

/-- What a pattern can be told about how its letters, dots and anchors are taken. -/
inductive Flag where
  | insensitive
  | multiLine
  | dotAll
  | swapGreed
  | unicode
  | carriageReturns
  | loose
deriving DecidableEq, Repr

/-- Flags with whether they are turned on. -/
abbrev FlagChanges := List (Flag × Bool)

/-- A kind of group. -/
inductive GroupKind where
  | captured
  | plain (changes : FlagChanges)
deriving DecidableEq, Repr

/-- The written form of a pattern. -/
inductive Form where
  | empty (span : Span)
  /-- A change of flags up to the end of the group around it. -/
  | flags (span : Span) (changes : FlagChanges)
  | atom (a : Atom)
  | dot (span : Span)
  | bracketed (span : Span) (negated : Bool) (s : SetForm)
  | repetition (span : Span) (least : Nat) (most : Option Nat) (p : Form)
  | group (span : Span) (kind : GroupKind) (p : Form)
  | choice (span : Span) (ps : List Form)
  | sequence (span : Span) (ps : List Form)
deriving Repr

def Form.span : Form → Span
  | empty s => s
  | flags s _ => s
  | atom a => a.span
  | dot s => s
  | bracketed s _ _ => s
  | repetition s _ _ _ => s
  | group s _ _ => s
  | choice s _ => s
  | sequence s _ => s

/-! ## Depth -/

/-- Checks that a part may stand inside so many others. -/
def checkDepth (depth : Nat) (span : Span) : Except Fault Unit :=
  if depth < deepest then .ok () else .error ⟨.nestedTooDeep, span, none⟩

mutual

/-- Checks the depth of a set that stands inside so many parts. -/
def SetForm.checkDepth (depth : Nat) : SetForm → Except Fault Unit
  | bracketed span _ s => do
    Pattern.checkDepth depth span
    s.checkDepth (depth + 1)
  | union span items => do
    Pattern.checkDepth depth span
    SetForm.checkDepths (depth + 1) items
  | operation span _ left right => do
    Pattern.checkDepth depth span
    left.checkDepth (depth + 1)
    right.checkDepth (depth + 1)
  | _ => .ok ()

def SetForm.checkDepths (depth : Nat) : List SetForm → Except Fault Unit
  | [] => .ok ()
  | s :: ss => do
    s.checkDepth depth
    SetForm.checkDepths depth ss

end

mutual

/-- Checks the depth of a part that stands inside so many others. -/
def Form.checkDepth (depth : Nat) : Form → Except Fault Unit
  | bracketed span _ s => do
    Pattern.checkDepth depth span
    s.checkDepth (depth + 1)
  | repetition span _ _ p => do
    Pattern.checkDepth depth span
    p.checkDepth (depth + 1)
  | group span _ p => do
    Pattern.checkDepth depth span
    p.checkDepth (depth + 1)
  | choice span ps => do
    Pattern.checkDepth depth span
    Form.checkDepths (depth + 1) ps
  | sequence span ps => do
    Pattern.checkDepth depth span
    Form.checkDepths (depth + 1) ps
  | _ => .ok ()

def Form.checkDepths (depth : Nat) : List Form → Except Fault Unit
  | [] => .ok ()
  | p :: ps => do
    p.checkDepth depth
    Form.checkDepths depth ps

end

end BenchRoster.Pattern
