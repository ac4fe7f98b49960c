/-
# Lines of a text

A line ends at a line feed, which belongs to no line; a carriage return just before it is dropped
too.  A text that ends in a line feed has no further line after it, and otherwise its last line
stands as it is.
-/

namespace BenchRoster.Text

/-- The pieces between line feeds; the last one is left out when it is empty. -/
def splitLines : List Char → List (List Char)
  | [] => []
  | c :: cs =>
    if c = '\n' then [] :: splitLines cs
    else match splitLines cs with
      | [] => [[c]]
      | l :: ls => (c :: l) :: ls

/-- Drops one carriage return at the end. -/
def dropReturn (cs : List Char) : List Char :=
  if cs.getLast? = some '\r' then cs.dropLast else cs

/-- The lines of a text. -/
def lines (s : String) : List String :=
  let ended := if s.toList.getLast? = some '\n' then 0 else 1
  let ls := splitLines s.toList
  let whole := ls.length - ended
  ((ls.take whole).map dropReturn ++ ls.drop whole).map String.ofList

end BenchRoster.Text
