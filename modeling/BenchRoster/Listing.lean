/-
# The table of backends

One row for each configured backend, with its name, its locator and its arguments in cells of fixed
widths.  A value that is too wide is cut and ends in an ellipsis, so every row has the same number
of characters.
-/
import BenchRoster.Config
import BenchRoster.Text.Blank

namespace BenchRoster.Listing

/-- The widths of the cells. -/
def nameWidth : Nat := 17
def locatorWidth : Nat := 17
def argumentsWidth : Nat := 36

/-- A value that is cut to the width if it is too wide. -/
def truncate (width : Nat) (cs : List Char) : List Char :=
  if cs.length ≤ width then cs else cs.take (width - 1) ++ ['…']

/-- A value in a cell: cut to the width, and filled up with blanks. -/
def cell (width : Nat) (cs : List Char) : List Char :=
  let shown := truncate width cs
  shown ++ List.replicate (width - shown.length) ' '

theorem length_truncate {width : Nat} {cs : List Char} (h : 0 < width) :
    (truncate width cs).length ≤ width := by
  unfold truncate
  split
  · assumption
  · simp only [List.length_append, List.length_take, List.length_singleton]
    omega

/-- Every cell has its width. -/
theorem length_cell {width : Nat} {cs : List Char} (h : 0 < width) :
    (cell width cs).length = width := by
  have : (truncate width cs).length ≤ width := length_truncate h
  simp only [cell, List.length_append, List.length_replicate]
  omega

/-- The arguments of a backend as one text; options are shown by their flag. -/
def argumentsText (e : BackendEntry) : String :=
  let args := " ".intercalate e.args
  Text.trim (if e.options.isSome then s!"{args} {e.flag} <options>" else args)

/-- Cells between bars. -/
def between (cells : List (List Char)) : List Char :=
  '║' :: cells.flatMap fun c => ' ' :: c ++ [' ', '║']

/-- The row of a backend. -/
def row (e : BackendEntry) : String :=
  String.ofList (between
    [cell nameWidth e.name.text.toList, cell locatorWidth e.locator.text.toList,
     cell argumentsWidth (argumentsText e).toList])

/-- What stands above the rows. -/
def header : List String :=
  ["╔══════════════════════════════════════════════════════════════════════════════╗",
   "║                           CONFIGURED BACKENDS                                ║",
   "╠═══════════════════╦═══════════════════╦══════════════════════════════════════╣",
   "║ Name              ║ Locator           ║ Arguments                            ║",
   "╠═══════════════════╬═══════════════════╬══════════════════════════════════════╣"]

/-- What stands below the rows. -/
def footer : List String :=
  ["╚═══════════════════╩═══════════════════╩══════════════════════════════════════╝"]

/-- The lines of the table with the totals, or the notice that there is nothing to list. -/
def lines (c : Config) : List String :=
  if c.backends.isEmpty then ["No backends defined in configuration."]
  else
    header ++ c.backends.map row ++ footer ++
      ["", s!"Suite: {c.suite.text} | Total: {c.backends.length} backend(s)"]

end BenchRoster.Listing
