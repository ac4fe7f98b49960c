/-
# Paths

Paths are texts with components between slashes.  They are joined and cut as texts, so what was
written stays visible; only slashes and full stops at the end of a parent are dropped.
-/

namespace BenchRoster.Path

/-- A path that begins at the root. -/
def isAbsolute (p : String) : Bool := p.toList.head? == some '/'

def isRelative (p : String) : Bool := !isAbsolute p

/-- The second path, taken from the first one unless it is absolute. -/
def join (base p : String) : String :=
  if isAbsolute p then p
  else if base.isEmpty ∨ base.toList.getLast? = some '/' then base ++ p
  else base ++ "/" ++ p

/-- The pieces between slashes. -/
def split : List Char → List (List Char)
  | [] => [[]]
  | c :: cs =>
    if c = '/' then [] :: split cs
    else match split cs with
      | [] => [[c]]
      | p :: ps => (c :: p) :: ps

/-- The pieces of a path as texts. -/
def pieces (p : String) : List String := (split p.toList).map String.ofList

/-- A first character that always belongs to the parent: the root, or a full stop that stands for
the working directory. -/
def keptLead (cs : List Char) : Nat :=
  match cs with
  | '/' :: _ => 1
  | ['.'] => 1
  | '.' :: '/' :: _ => 1
  | _ => 0

/-- Drops slashes, and full stops that stand alone between slashes, from the end of a path given in
reverse, but not the kept lead. -/
def dropFillers (lead : Nat) : List Char → List Char
  | '/' :: cs => if lead ≤ cs.length then dropFillers lead cs else '/' :: cs
  | '.' :: '/' :: cs =>
    if lead ≤ cs.length then dropFillers lead cs
    else if lead = cs.length + 1 then '/' :: cs
    else '.' :: '/' :: cs
  | cs => cs

/-- The path without its last component; a path without components has no parent. -/
def parent? (p : String) : Option String :=
  let cs := p.toList
  let lead := keptLead cs
  let body := dropFillers lead cs.reverse
  if body.length ≤ lead then
    match cs with
    | '.' :: _ => some ""
    | _ => none
  else
    let last := body.takeWhile (· != '/')
    let rest := body.drop (min last.length (body.length - lead))
    some (String.ofList (dropFillers lead rest).reverse)

/-- The directory that relative entries of a file refer to; none for a file in the working
directory. -/
def directory? (p : String) : Option String := (parent? p).filter fun d => !d.isEmpty

/-- Parents of plain, nested, doubled and dotted paths. -/
example : parent? "c.yaml" = some "" ∧ parent? "sub/c.yaml" = some "sub" ∧
    parent? "sub//c.yaml" = some "sub" ∧ parent? "sub/./c.yaml" = some "sub" ∧
    parent? "./c.yaml" = some "." ∧ parent? "/c.yaml" = some "/" ∧ parent? "a/../c" = some "a/.." ∧
    parent? "a//b/c/" = some "a//b" ∧ parent? "/./c" = some "/" ∧ parent? "/" = none ∧
    parent? "././c" = some "." := by
  decide +kernel

end BenchRoster.Path
