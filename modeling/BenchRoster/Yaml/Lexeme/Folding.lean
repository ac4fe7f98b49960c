/-
# Folding of line breaks

Inside quoted and plain scalars a single line break stands for a space, and of several the first one
is dropped.  Blanks around line breaks do not count.
-/
import BenchRoster.Yaml.Cursor

namespace BenchRoster.Yaml

/-- White space between two pieces of a scalar. -/
inductive Gap where
  /-- Blanks on one line. -/
  | blanks (cs : List Char)
  /-- A first line break, if it counts, and the breaks after it. -/
  | breaks (first : List Char) (more : List Char)
deriving Repr

/-- What the white space stands for. -/
def Gap.fold : Gap → List Char
  | .blanks cs => cs
  | .breaks first more =>
    if first = ['\n'] then (if more = [] then [' '] else more)
    else first ++ more

/-- The gap begins with a line break. -/
def Gap.broken : Gap → Bool
  | .blanks _ => false
  | .breaks _ _ => true

def Gap.isEmpty : Gap → Bool
  | .blanks cs => cs.isEmpty
  | .breaks _ _ => false

/-- Adds a line break. -/
def Gap.addBreak (g : Gap) (b : List Char) : Gap :=
  match g with
  | .blanks _ => .breaks b []
  | .breaks first more => .breaks first (more ++ b)

/-- Adds a blank; blanks after a line break do not count. -/
def Gap.addBlank (g : Gap) (ch : Char) : Gap :=
  match g with
  | .blanks cs => .blanks (cs ++ [ch])
  | .breaks first more => .breaks first more

end BenchRoster.Yaml
