/-
# The meaning of forms

Gives the form of a pattern its meaning under flags.  A change of flags holds up to the end of the
group around it, also in later alternatives.  Without the flag for Unicode a pattern speaks of
bytes; it is refused where it could then match a byte beyond ASCII on its own.
-/
import BenchRoster.Pattern.Property

namespace BenchRoster.Pattern

/-- How letters, dots and anchors are taken. -/
structure Flags where
  insensitive : Bool := false
  multiLine : Bool := false
  dotAll : Bool := false
  unicode : Bool := true
  carriageReturns : Bool := false
deriving DecidableEq, Repr

namespace Flags

def change (f : Flags) : Flag × Bool → Flags
  | (.insensitive, on) => { f with insensitive := on }
  | (.multiLine, on) => { f with multiLine := on }
  | (.dotAll, on) => { f with dotAll := on }
  | (.unicode, on) => { f with unicode := on }
  | (.carriageReturns, on) => { f with carriageReturns := on }
  | (.swapGreed, _) => f
  | (.loose, _) => f

def changeAll (f : Flags) (changes : FlagChanges) : Flags := changes.foldl change f

/-- A set with the letters of the other case, where case does not count. -/
def fold (f : Flags) (s : CharSet) : CharSet :=
  if f.insensitive then if f.unicode then .foldCase s else .foldAscii s else s

/-- A set, or its complement; case is folded first. -/
def foldAndNegate (f : Flags) (negated : Bool) (s : CharSet) : CharSet :=
  if negated then .compl (f.fold s) else f.fold s

/-- Refuses a set of bytes that has one beyond ASCII.  All bytes beyond ASCII belong to such a set
or none does, so one of them tells. -/
def checkBytes (f : Flags) (span : Span) (s : CharSet) : Except Fault CharSet :=
  if !f.unicode && s.has '\u0080' then .error ⟨.invalidUtf8, span, none⟩ else .ok s

end Flags

/-- The character of a literal.  Without Unicode a byte beyond ASCII is refused. -/
def Literal.meaning (l : Literal) (f : Flags) : Except Fault Char :=
  if !f.unicode && l.asByte && 128 ≤ l.char.toNat then .error ⟨.invalidUtf8, l.span, none⟩
  else .ok l.char

/-- The character of a literal inside brackets, which without Unicode is an ASCII character. -/
def Literal.inSet (l : Literal) (f : Flags) : Except Fault Char := do
  let c ← l.meaning f
  if !f.unicode && 128 ≤ c.toNat then .error ⟨.unicodeNotAllowed, l.span, none⟩ else .ok c

/-- A set with a letter of its own. -/
def ShortSet.meaning (s : ShortSet) (negated : Bool) (span : Span) (f : Flags) :
    Except Fault CharSet :=
  let ascii : CharSet :=
    match s with
    | .digit => .digit
    | .space => .space
    | .word => .word
  let members := if f.unicode then Property.ofShort s else ascii
  f.checkBytes span (if negated then .compl members else members)

/-- The set of a property, which there is with Unicode only. -/
def PropertyQuery.meaning (q : PropertyQuery) (negated : Bool) (span : Span) (f : Flags) :
    Except Fault CharSet :=
  if f.unicode then
    match Property.set q with
    | .ok s => .ok (f.foldAndNegate negated s)
    | .error flaw => .error ⟨flaw, span, none⟩
  else .error ⟨.unicodeNotAllowed, span, none⟩

def SetOperation.apply : SetOperation → CharSet → CharSet → CharSet
  | .intersection => .inter
  | .difference => .diff
  | .symmetricDifference => .symmDiff

mutual

/-- The characters of a set inside brackets. -/
def SetForm.meaning (f : Flags) : SetForm → Except Fault CharSet
  | empty _ => .ok .none
  | literal l => (l.inSet f).map .single
  | range _ low high => do
    let a ← low.inSet f
    let b ← high.inSet f
    .ok (.range a b)
  | named span negated s => f.checkBytes span (f.foldAndNegate negated s)
  | short span negated s => s.meaning negated span f
  | property span negated q => q.meaning negated span f
  | bracketed span negated s => do
    f.checkBytes span (f.foldAndNegate negated (← s.meaning f))
  | union _ items => (SetForm.meanings f items).map .unionOf
  | operation _ op left right => do
    let a ← left.meaning f
    let b ← right.meaning f
    .ok (op.apply (f.fold a) (f.fold b))

def SetForm.meanings (f : Flags) : List SetForm → Except Fault (List CharSet)
  | [] => .ok []
  | s :: ss => do
    let a ← s.meaning f
    let rest ← SetForm.meanings f ss
    .ok (a :: rest)

end

/-- The pattern of a character.  Where case does not count and there is no Unicode, it has to be an
ASCII character. -/
def Literal.pattern (l : Literal) (f : Flags) : Except Fault Pattern := do
  let c ← l.meaning f
  if f.insensitive && !f.unicode && 128 ≤ c.toNat then .error ⟨.unicodeNotAllowed, l.span, none⟩
  else .ok (.oneOf (f.fold (.single c)))

/-- The anchors of lines are those of the text, unless lines count. -/
def Anchor.meaning (a : Anchor) (f : Flags) : Anchor :=
  match a, f.multiLine with
  | .lineStart, false => .textStart
  | .lineEnd, false => .textEnd
  | a, _ => a

def Atom.meaning (a : Atom) (f : Flags) : Except Fault Pattern :=
  match a with
  | .literal l => l.pattern f
  | .short span negated s => (s.meaning negated span f).map .oneOf
  | .property span negated q => (q.meaning negated span f).map .oneOf
  | .anchor _ a => .ok (.anchor (Anchor.meaning a f))

/-- Any character, or any but those that end a line. -/
def dotSet (f : Flags) : CharSet :=
  if f.dotAll then .all
  else .compl (.ofList (if f.carriageReturns then ['\r', '\n'] else ['\n']))

mutual

/-- The pattern of a form, with the flags that hold after it. -/
def Form.meaning (f : Flags) : Form → Except Fault (Pattern × Flags)
  | empty _ => .ok (.empty, f)
  | flags _ changes => .ok (.empty, f.changeAll changes)
  | atom a => (a.meaning f).map fun p => (p, f)
  | dot span =>
    if f.unicode then .ok (.oneOf (dotSet f), f) else .error ⟨.invalidUtf8, span, none⟩
  | bracketed span negated s => do
    let set ← f.checkBytes span (f.foldAndNegate negated (← s.meaning f))
    .ok (.oneOf set, f)
  | repetition _ least most p => do
    let (p, after) ← p.meaning f
    .ok (p.repeated least most, after)
  | group _ kind p =>
    match kind with
    | .captured => do
      let (p, _) ← p.meaning f
      .ok (.captured p, f)
    | .plain changes => do
      let (p, _) ← p.meaning (f.changeAll changes)
      .ok (p, f)
  | choice _ ps => do
    let (ps, after) ← Form.meanings f ps
    .ok (.choice ps, after)
  | sequence _ ps => do
    let (ps, after) ← Form.meanings f ps
    .ok (.sequence ps, after)

def Form.meanings (f : Flags) : List Form → Except Fault (List Pattern × Flags)
  | [] => .ok ([], f)
  | p :: ps => do
    let (p, f) ← p.meaning f
    let (ps, f) ← Form.meanings f ps
    .ok (p :: ps, f)

end

end BenchRoster.Pattern
