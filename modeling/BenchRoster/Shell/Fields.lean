/-
# Fields

What a word expands to is a row of pieces: octets, each with whether it was quoted and whether it
may separate fields, and marks.  Separators cut the row into fields.  The main statements say what
becomes of a row in which nothing separates.
-/
import BenchRoster.Shell.Glob

namespace BenchRoster.Shell

/-- A piece of an expanded word. -/
inductive Piece where
  | octet (c : Char) (quoted splits : Bool)
  /-- Here is a field even if it stays empty. -/
  | mark
  /-- Here one field ends and another one begins. -/
  | cut
deriving DecidableEq, Repr

namespace Piece

/-- The octets of pieces, with a mark at those that were quoted. -/
def marked (ps : List Piece) : Marked :=
  ps.filterMap fun
    | octet c quoted _ => some (c, quoted)
    | _ => none

/-- The text of pieces. -/
def text (ps : List Piece) : List Char := (marked ps).map (·.1)

/-- Octets that were quoted. -/
def quoted (cs : List Char) : List Piece := cs.map fun c => octet c true false

/-- Octets that were not. -/
def bare (splits : Bool) (cs : List Char) : List Piece := cs.map fun c => octet c false splits

end Piece

/-! ## Cutting -/

/-- Separators that count as one when they come together. -/
def isBlankSeparator (separators : List Char) (c : Char) : Bool :=
  separators.contains c && (c == ' ' || c == '\t' || c == '\n')

/-- The fields so far, newest first, and the one that is being put together, in reverse. -/
structure Cutting where
  done : List Marked := []
  current : Option Marked := none
  /-- A blank has ended a field, and a separator after it belongs to it. -/
  afterBlank : Bool := false

namespace Cutting

def finish (k : Cutting) : Cutting :=
  match k.current with
  | some m => { done := m.reverse :: k.done }
  | none => k

def step (separators : List Char) (k : Cutting) (p : Piece) : Cutting :=
  match p with
  | .mark => { k with current := some (k.current.getD []), afterBlank := false }
  | .cut => { k.finish with afterBlank := false }
  | .octet c quoted splits =>
    if splits && separators.contains c then
      if isBlankSeparator separators c then
        match k.current with
        | some _ => { k.finish with afterBlank := true }
        | none => k
      else
        match k.current, k.afterBlank with
        | some _, _ => { k.finish with afterBlank := false }
        | none, true => { k with afterBlank := false }
        | none, false => { k with done := [] :: k.done }
    else { k with current := some ((c, quoted) :: k.current.getD []), afterBlank := false }

end Cutting

/-- The fields of an expanded word. -/
def fieldsOf (separators : List Char) (ps : List Piece) : List Marked :=
  (ps.foldl (Cutting.step separators) {}).finish.done.reverse

theorem foldl_step_quoted (separators : List Char) (cs : List Char) (k : Cutting) (m : Marked) :
    (Piece.quoted cs).foldl (Cutting.step separators) { k with current := some m } =
      ⟨k.done, some ((cs.map fun c => (c, true)).reverse ++ m),
        if cs.isEmpty then k.afterBlank else false⟩ := by
  induction cs generalizing k m with
  | nil => rfl
  | cons c cs ih =>
    have := ih { k with afterBlank := false } ((c, true) :: m)
    simp_all [Piece.quoted, Cutting.step]

/-- What stands between quotes is one field, even if it is empty. -/
theorem fieldsOf_quoted (separators : List Char) (cs : List Char) :
    fieldsOf separators (.mark :: Piece.quoted cs) = [cs.map fun c => (c, true)] := by
  have h := foldl_step_quoted separators cs {} []
  simp only [fieldsOf, List.foldl_cons, Cutting.step] at h ⊢
  simp [h, Cutting.finish]

/-! ## Lines that are read -/

/-- The rest of a line for the last variable: without blanks at its end, and without the separator
behind it if it is a single field. -/
def lastField (separators : List Char) (line : Marked) : List Char :=
  let separates (c : Char × Bool) : Bool := !c.2 && separators.contains c.1
  let blank (c : Char × Bool) : Bool := !c.2 && isBlankSeparator separators c.1
  let first := line.takeWhile fun c => !separates c
  match line.drop first.length with
  | [] => line.map (·.1)
  | d :: more =>
    -- the number of octets to keep, if the rest is to go, and whether a separator may still follow
    let (cut, _, _) := more.foldl (fun (acc : Option Nat × Bool × Nat) c =>
      let (cut, mayFollow, n) := acc
      if blank c then (cut.or (some n), mayFollow, n + 1)
      else if separates c && mayFollow then (cut, false, n + 1)
      else (none, false, n + 1)) (some first.length, blank d, first.length + 1)
    (line.take (cut.getD line.length)).map (·.1)

/-- Cuts a line into so many fields; the last one takes the rest. -/
def lineFields (separators : List Char) : Nat → Marked → List String
  | 0, _ => []
  | n + 1, line =>
    let separates (c : Char × Bool) : Bool := !c.2 && separators.contains c.1
    let blank (c : Char × Bool) : Bool := !c.2 && isBlankSeparator separators c.1
    let line := line.dropWhile blank
    if n = 0 then [String.ofList (lastField separators line)]
    else
      let field := line.takeWhile fun c => !separates c
      let rest := line.drop field.length
      let after := rest.dropWhile blank
      let rest :=
        match after with
        | c :: more => if separates c then more else after
        | [] => []
      String.ofList (field.map (·.1)) :: lineFields separators n rest

example :
    let line (s : String) : Marked := s.toList.map fun c => (c, false)
    lineFields [' '] 3 (line "1  2 3 4") = ["1", "2", "3 4"] ∧
      lineFields [':', ' '] 1 (line "a::") = ["a::"] ∧
      lineFields [':', ' '] 2 (line " a : b : c ") = ["a", "b : c"] ∧
      lineFields [':', ' '] 1 (line "a : ") = ["a"] := by decide +kernel

end BenchRoster.Shell
