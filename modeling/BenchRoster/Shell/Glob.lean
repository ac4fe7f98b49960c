/-
# Patterns of a shell

Patterns with asterisks, question marks and brackets cover whole texts.  They choose an arm, cut an
end off a value, and name files.
-/
import BenchRoster.FileSystem
import BenchRoster.Text.Octets
import BenchRoster.Tool.Translate

namespace BenchRoster.Shell

/-- Octets, with a mark at those that were quoted. -/
abbrev Marked := List (Char × Bool)

/-- A part of a bracket. -/
inductive Item where
  | range (first last : Char)
  | named (name : String)
deriving DecidableEq

/-- A piece of a pattern. -/
inductive Glob where
  | char (c : Char)
  | any
  | many
  | oneOf (negated : Bool) (items : List Item)
deriving DecidableEq

/-- The order of octets in ranges, in which those beyond ASCII come first. -/
def orderOf (c : Char) : Int := if c.toNat < 128 then c.toNat else (c.toNat : Int) - 256

def Item.has (i : Item) (c : Char) : Bool :=
  match i with
  | .range a b => orderOf a ≤ orderOf c && orderOf c ≤ orderOf b
  | .named name => ((Tool.Translate.classOf? name).getD fun _ => false) c

namespace Glob

/-- Whether some end of a text has a property. -/
def someEnd (p : List Char → Bool) : List Char → Bool
  | [] => p []
  | c :: cs => p (c :: cs) || someEnd p cs

/-- Whether a pattern covers a whole text. -/
def covers : List Glob → List Char → Bool
  | [], cs => cs.isEmpty
  | .many :: gs, cs => someEnd (covers gs) cs
  | g :: gs, c :: cs =>
    let first : Bool :=
      match g with
      | .char d => c == d
      | .oneOf negated items => (items.any (·.has c)) != negated
      | _ => true
    first && covers gs cs
  | _ :: _, [] => false

/-- The name of a class at the front, and what comes after it. -/
def className? (m : Marked) : Option (String × Marked) :=
  let name := m.takeWhile fun c => c.1.isAlpha && !c.2
  match m.drop name.length with
  | (':', false) :: (']', false) :: rest =>
    let name := String.ofList (name.map (·.1))
    if (Tool.Translate.classOf? name).isSome then some (name, rest) else none
  | _ => none

/-- Reads the items of a bracket up to its end; the first octet is no end. -/
def items : Nat → Bool → Marked → Option (List Item × Marked)
  | 0, _, _ => none
  | _ + 1, _, [] => none
  | n + 1, first, c :: m =>
    if c = (']', false) ∧ !first then some ([], m)
    else
      let named? : Option (String × Marked) :=
        match c, m with
        | ('[', false), (':', false) :: r => className? r
        | _, _ => none
      match named? with
      | some (name, rest) => (items n false rest).map fun (is, rest) => (.named name :: is, rest)
      | none =>
        let single := (items n false m).map fun (is, rest) => (.range c.1 c.1 :: is, rest)
        match m with
        | ('-', false) :: d :: rest =>
          if d = (']', false) then single
          else (items n false rest).map fun (is, rest) => (.range c.1 d.1 :: is, rest)
        | _ => single

/-- Reads a pattern; so many pieces at most. -/
def read : Nat → Marked → List Glob
  | 0, _ => []
  | _ + 1, [] => []
  | n + 1, (c, true) :: m => .char c :: read n m
  | n + 1, (c, false) :: m =>
    match c with
    | '*' => .many :: read n m
    | '?' => .any :: read n m
    | '[' =>
      let (negated, inner) : Bool × Marked :=
        match m with
        | ('!', false) :: r => (true, r)
        | r => (false, r)
      match items (inner.length + 1) true inner with
      | some (is, rest) => .oneOf negated is :: read n rest
      | none => .char '[' :: read n m
    | c => .char c :: read n m

/-- The pattern that octets write. -/
def ofMarked (m : Marked) : List Glob := read m.length m

/-- The pattern covers one text only. -/
def isPlain (gs : List Glob) : Bool :=
  gs.all fun
    | .char _ => true
    | _ => false

/-- Drops the shortest or the longest start of a text that the pattern covers. -/
def dropStart (g : List Glob) (longest : Bool) (cs : List Char) : List Char :=
  let lengths := List.range (cs.length + 1)
  match (if longest then lengths.reverse else lengths).find? fun n => covers g (cs.take n) with
  | some n => cs.drop n
  | none => cs

/-- Drops the shortest or the longest end of a text that the pattern covers, if it covers any. -/
def dropEnd? (g : List Glob) (longest : Bool) (cs : List Char) : Option (List Char) :=
  let lengths := List.range (cs.length + 1)
  ((if longest then lengths else lengths.reverse).find? fun n => covers g (cs.drop n)).map cs.take

/-! ## Names of files -/

/-- The pieces of a pattern between slashes. -/
def components (m : Marked) : List Marked :=
  m.foldr (fun c acc =>
    if c.1 = '/' then [] :: acc
    else
      match acc with
      | a :: as => (c :: a) :: as
      | [] => [[c]]) [[]]

/-- The names in a directory in octets, in order; those that begin with a full stop only for a
pattern that does so too. -/
def namesIn (fs : FileSystem) (dir : Place) (g : List Glob) : List String :=
  let names := fs.entries.filterMap fun (p, _) =>
    match p.getLast? with
    | some name => if p.dropLast = dir then some (Octets.ofText name) else none
    | none => none
  let hidden (name : String) : Bool := name.toList.head? == some '.'
  let wanted (name : String) : Bool :=
    (!hidden name || g.head? == some (.char '.')) && covers g name.toList
  let all := if g.head? = some (.char '.') then "." :: ".." :: names else names
  (all.filter wanted).mergeSort fun a b => decide (a ≤ b)

/-- The paths that a pattern names, given the part of them that is settled. -/
def expand (fs : FileSystem) (workDir : Place) (settled : List Char) : List Marked →
    List (List Char)
  | [] => [settled]
  | m :: ms =>
    let here := if settled.isEmpty then "." else Octets.toText (String.ofList settled)
    let g := ofMarked m
    let names : List (List Char) :=
      if isPlain g then
        let name := m.map (·.1)
        let path := Octets.toText (String.ofList (settled ++ name))
        if name.isEmpty ∨ !ms.isEmpty ∨ fs.pathExists workDir path then [name] else []
      else
        match fs.find workDir here with
        | .ok (dir, .directory) => (namesIn fs dir g).map String.toList
        | _ => []
    names.flatMap fun name =>
      let path := settled ++ name
      if ms.isEmpty then [path]
      else if isPlain g ∨ fs.isDirectory workDir (Octets.toText (String.ofList path)) then
        expand fs workDir (path ++ ['/']) ms
      else []

/-- The paths that a pattern names; none if it is no pattern. -/
def paths (fs : FileSystem) (workDir : Place) (m : Marked) : List String :=
  if isPlain (ofMarked m) then []
  else (expand fs workDir [] (components m)).map String.ofList

end Glob

example :
    let g (s : String) : List Glob := Glob.ofMarked (s.toList.map fun c => (c, false))
    Glob.covers (g "[a-z]*") "abc".toList ∧ ¬ Glob.covers (g "[!0-9]*") "9".toList ∧
      Glob.covers (g "[!0-9]*") "\xc3\xa9".toList ∧ Glob.covers (g "a[]b") "a[]b".toList := by
  decide +kernel

end BenchRoster.Shell
