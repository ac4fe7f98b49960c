/-
# Cursors over written patterns

A cursor is a place in a written pattern with the characters from there on.  A loose cursor passes
over blanks, and over comments that run from a number sign to the end of the line, wherever a part
may start.
-/
import BenchRoster.Pattern.Fault
import BenchRoster.Text.Blank

namespace BenchRoster.Pattern

structure Cursor where
  place : Place := {}
  rest : List Char
  /-- Blanks and comments between parts do not count. -/
  loose : Bool := false
deriving Repr

namespace Cursor

/-- The empty part at a cursor. -/
def here (cur : Cursor) : Span := ⟨cur.place, cur.place⟩

/-- The part from a place up to a cursor. -/
def since (cur : Cursor) (start : Place) : Span := ⟨start, cur.place⟩

/-- The next character as a part. -/
def charSpan (cur : Cursor) : Span :=
  match cur.rest with
  | [] => cur.here
  | c :: _ => ⟨cur.place, cur.place.after c⟩

/-- Moves over one character. -/
def next (cur : Cursor) : Cursor :=
  match cur.rest with
  | [] => cur
  | c :: cs => { cur with place := cur.place.after c, rest := cs }

/-- Moves over so many characters. -/
def skip (cur : Cursor) : Nat → Cursor
  | 0 => cur
  | n + 1 => cur.next.skip n

/-- Passes over blanks and comments; the flag says whether a comment is open. -/
def passBlanks : Bool → Place → List Char → Place × List Char
  | _, p, [] => (p, [])
  | true, p, c :: cs => passBlanks (c != '\n') (p.after c) cs
  | false, p, c :: cs =>
    if Text.isBlank c then passBlanks false (p.after c) cs
    else if c = '#' then passBlanks true (p.after c) cs
    else (p, c :: cs)

/-- A loose cursor moves to the next part. -/
def settle (cur : Cursor) : Cursor :=
  if cur.loose then
    let (place, rest) := passBlanks false cur.place cur.rest
    { cur with place, rest }
  else cur

/-- Moves over one character and to the next part. -/
def advance (cur : Cursor) : Cursor := cur.next.settle

/-- The character after the next one.  A loose cursor looks past blanks and past one number sign;
where nothing but these is left it does not. -/
def peekPart (cur : Cursor) : Option Char :=
  let after := cur.rest.drop 1
  if cur.loose then
    let seen :=
      match Text.dropBlanks after with
      | '#' :: more => Text.dropBlanks more
      | more => more
    seen.head? <|> after.head?
  else after.head?

theorem passBlanks_length (open? : Bool) (p : Place) (cs : List Char) :
    (passBlanks open? p cs).2.length ≤ cs.length := by
  induction cs generalizing open? p with
  | nil => simp [passBlanks]
  | cons c cs ih =>
    have step := fun b => Nat.le_succ_of_le (ih b (p.after c))
    cases open? with
    | true => simpa [passBlanks] using step _
    | false =>
      unfold passBlanks
      split
      · exact step _
      · split
        · exact step _
        · exact Nat.le_refl _

theorem settle_length (cur : Cursor) : cur.settle.rest.length ≤ cur.rest.length := by
  unfold settle
  split
  · exact passBlanks_length false cur.place cur.rest
  · exact Nat.le_refl _

theorem advance_length {cur : Cursor} {c : Char} {cs : List Char} (h : cur.rest = c :: cs) :
    cur.advance.rest.length < cur.rest.length := by
  have := settle_length cur.next
  simp only [next, h] at this
  simpa [advance, next, h] using Nat.lt_succ_of_le this

/-- Takes characters as long as they are of a kind, each together with what is passed over after
it. -/
def takeWhile (kind : Char → Bool) (cur : Cursor) : List Char × Cursor :=
  match _h : cur.rest with
  | [] => ([], cur)
  | c :: _ =>
    if kind c then
      let (cs, stop) := takeWhile kind cur.advance
      (c :: cs, stop)
    else ([], cur)
termination_by cur.rest.length
decreasing_by exact advance_length _h

/-- Takes blanks, whether or not the cursor is loose. -/
def dropBlanks (cur : Cursor) : Cursor := cur.skip (cur.rest.takeWhile Text.isBlank).length

end Cursor

end BenchRoster.Pattern
