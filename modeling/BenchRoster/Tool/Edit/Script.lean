/-
# Scripts for editing lines

A script is a row of commands, each with the lines that it works on.
-/
import BenchRoster.Tool.Basic
import BenchRoster.Tool.Expression

namespace BenchRoster.Tool.Edit

/-- An expression, or the one that was used last. -/
structure Finder where
  expression : Option Expression
  foldCase : Bool := false

/-- What selects a line. -/
inductive Address where
  | line (n : Nat)
  | last
  | found (f : Finder)
  /-- Every so many lines from one on. -/
  | every (first step : Nat)

/-- Where a range of lines ends. -/
inductive RangeEnd where
  | at (a : Address)
  | after (lines : Nat)
  /-- At a line whose number is a multiple. -/
  | multiple (n : Nat)

/-- The lines that a command works on. -/
structure Selection where
  first : Option Address := none
  stop : Option RangeEnd := none
  negated : Bool := false

/-- How letters of a replacement change. -/
inductive Letters where
  | upper
  | lower
  | asWritten
deriving DecidableEq

/-- A part of a replacement. -/
inductive Piece where
  | text (cs : List Char)
  | group (n : Nat)
  | letters (l : Letters)
  /-- The next letter only. -/
  | letter (l : Letters)

structure Substitution where
  finder : Finder
  replacement : List Piece
  all : Bool := false
  print : Bool := false
  /-- The file that lines are written to. -/
  file : Option String := none
  /-- The first match that is replaced. -/
  nth : Nat := 1

/-- What a command does. -/
inductive Action where
  /-- Goes on behind the block unless its lines are selected. -/
  | block (stop : Nat)
  | blockEnd
  | substitute (s : Substitution)
  | translate (table : List (Char × Char))
  | delete
  | deleteFirst
  | print
  | printFirst
  | next
  | nextAppended
  | hold (append : Bool)
  | recall (append : Bool)
  | exchange
  | append (text : List Char)
  | insert (text : List Char)
  | change (text : List Char)
  | quit (status : Nat) (silent : Bool)
  | jump (label : List Char)
  /-- Jumps if something was, or was not, replaced since the line was read. -/
  | jumpIf (replaced : Bool) (label : List Char)
  | label (name : List Char)
  | number
  | list
  | clear
  /-- Writes the line to a file. -/
  | store (file : String)
  /-- Writes what a file holds after the line. -/
  | include (file : String)
  | nothing

structure Command where
  selection : Selection
  action : Action

end BenchRoster.Tool.Edit
