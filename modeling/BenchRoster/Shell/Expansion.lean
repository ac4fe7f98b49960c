/-
# Expanding words

Words are expanded to pieces: parameters, the output of commands and the values of expressions are
put in their places.  The pieces give fields, one text, or a pattern, as the place of the word asks.
-/
import BenchRoster.Shell.Arithmetic
import BenchRoster.Shell.Fields
import BenchRoster.Shell.State

namespace BenchRoster.Shell

/-- What a word is expanded for. -/
structure Aim where
  /-- Fields are made of it. -/
  fields : Bool
  /-- It is the word of a parameter, of which the text separates fields too. -/
  inner : Bool := false

/-- Text without the line feeds at its end. -/
def dropFinalNewlines (cs : List Char) : List Char := (cs.reverse.dropWhile (· == '\n')).reverse

/-! ## Home directories -/

/-- The home directory of a user, or of the present one. -/
def State.homeOf? (s : State) (user : String) : Option String :=
  if user = "" then s.valueOf? "HOME" else if user = "root" then some "/root" else none

/-- Replaces a tilde with a name at the start of text that a slash or the end of the word follows;
in an assignment, a colon may follow as well. -/
def State.home? (s : State) (assigned isWhole : Bool) (cs : List Char) :
    Option (List Char × List Char) :=
  match cs with
  | '~' :: cs =>
    let user := cs.takeWhile fun c => c != '/' && !(assigned && c == ':')
    let rest := cs.drop user.length
    if rest.isEmpty && !isWhole then none
    else (s.homeOf? (String.ofList user)).map fun home => (home.toList, rest)
  | _ => none

/-- The pieces of text at the start of a word. -/
def State.tildePieces (s : State) (splits isWhole : Bool) (cs : List Char) : List Piece :=
  match s.home? false isWhole cs with
  | some (home, rest) => Piece.quoted home ++ Piece.bare splits rest
  | none => Piece.bare splits cs

/-- The pieces of text in an assignment, in which tildes may also stand after colons. -/
def State.assignedPieces (s : State) (isWhole : Bool) : Nat → List Char → List Piece
  | 0, cs => Piece.bare false cs
  | n + 1, cs =>
    let (ps, rest) : List Piece × List Char :=
      match s.home? true isWhole cs with
      | some (home, rest) => (Piece.quoted home, rest)
      | none => ([], cs)
    let before := rest.takeWhile (· != ':')
    match rest.drop before.length with
    | [] => ps ++ Piece.bare false before
    | _ :: after =>
      ps ++ Piece.bare false (before ++ [':']) ++ s.assignedPieces isWhole n after

/-! ## Parameters -/

/-- Text as pieces of an expansion. -/
def resultPieces (aim : Aim) (quoted : Bool) (cs : List Char) : List Piece :=
  if quoted then Piece.quoted cs else Piece.bare aim.fields cs

/-- The parameter stands for all arguments, and each of them makes fields of its own. -/
def isSpread (aim : Aim) (quoted : Bool) (name : List Char) : Bool :=
  aim.fields && (name == ['@'] || (name == ['*'] && !quoted))

/-- Texts as pieces with cuts between them. -/
def spreadPieces (quoted : Bool) (texts : List (List Char)) : List Piece :=
  let one (cs : List Char) : List Piece :=
    if quoted then .mark :: Piece.quoted cs else Piece.bare true cs
  ((texts.map one).intersperse [.cut]).flatten

/-- The value of a parameter as pieces. -/
def State.valuePieces (s : State) (aim : Aim) (quoted : Bool) (name : List Char) : List Piece :=
  if isSpread aim quoted name then spreadPieces quoted (s.arguments.map String.toList)
  else resultPieces aim quoted ((s.parameter? name).getD "").toList

/-- Takes a start that a pattern covers off the first argument.  Where the longest one is asked for
and it is all of an argument with others behind it, nothing is left of any. -/
def trimStarts (g : List Glob) (longest : Bool) : List (List Char) → List (List Char)
  | [] => []
  | a :: as =>
    if longest && !as.isEmpty && Glob.covers g a then [[]] else Glob.dropStart g longest a :: as

/-- Cuts the arguments off at an end of one that a pattern covers: at the longest end of the first
one, or at the shortest end of the last one that has any. -/
def trimEnds? (g : List Glob) (longest : Bool) : List (List Char) → Option (List (List Char))
  | [] => none
  | a :: as =>
    let here? := (Glob.dropEnd? g longest a).map fun t => [t]
    if longest then here? else ((trimEnds? g longest as).map (a :: ·)) <|> here?

/-- Complains that a parameter has no value. -/
def failUnset {α : Type} (name : List Char) : Run α :=
  fail s!"{String.ofList name}: parameter not set"

/-- The value of an expression. -/
def evaluate (expression : List Char) : Run Int := do
  let s ← get
  match Arithmetic.evaluate s.valueOf? expression with
  | .error f => fail (f.message (String.ofList expression))
  | .ok (v, assigned) =>
    assigned.forM fun (name, value) => assign name (toString value) false
    return v

mutual

/-- The pieces of a word; `first` says that the next part is at its start. -/
def expandParts (capture : Command → Run (List Char)) (aim : Aim) (first : Bool) :
    List Part → Run (List Piece)
  | [] => return []
  | p :: ps => do
    let here ← expandPart capture aim first ps.isEmpty p
    return here ++ (← expandParts capture aim false ps)

/-- The pieces of a part. -/
def expandPart (capture : Command → Run (List Char)) (aim : Aim) (first isLast : Bool) :
    Part → Run (List Piece)
  | .text cs => do
    let splits := aim.fields && aim.inner
    if first then return (← get).tildePieces splits isLast cs
    else return Piece.bare splits cs
  | .literal cs => return .mark :: Piece.quoted cs
  | .command quoted c => do
    return resultPieces aim quoted (← capture c)
  | .arithmetic quoted e => do
    let ps ← expandParts capture ⟨false, false⟩ false e
    let v ← evaluate (Piece.text ps)
    return resultPieces aim quoted (toString v).toList
  | .parameter quoted name use word => do
    let s ← get
    let value := s.parameter? name
    let isNull := (value.getD "").isEmpty
    let missing (empty : Bool) : Bool := value.isNone || (empty && isNull)
    let unset := value.isNone && s.has 'u'
    match use with
    | .value =>
      if unset then failUnset name
      return s.valuePieces aim quoted name
    | .length =>
      if unset then failUnset name
      return resultPieces aim quoted (toString (value.getD "").length).toList
    | .orElse empty =>
      if missing empty then expandParts capture { aim with inner := true } true word
      else return s.valuePieces aim quoted name
    | .ifPresent empty =>
      if missing empty then return []
      else expandParts capture { aim with inner := true } true word
    | .orAssign empty =>
      if missing empty then
        let ps ← expandParts capture ⟨false, true⟩ true word
        if !isName (String.ofList name) then fail s!"{String.ofList name}: bad variable name"
        assign (String.ofList name) (String.ofList (Piece.text ps)) false
        return (← get).valuePieces aim quoted name
      else return s.valuePieces aim quoted name
    | .orFail empty =>
      if missing empty then
        let ps ← expandParts capture ⟨false, true⟩ true word
        let reason :=
          if word.isEmpty then
            if empty then "parameter not set or null" else "parameter not set"
          else String.ofList (Piece.text ps)
        fail s!"{String.ofList name}: {reason}"
      else return s.valuePieces aim quoted name
    | .trim atEnd longest =>
      if unset then failUnset name
      let ps ← expandParts capture ⟨false, true⟩ true word
      let g := Glob.ofMarked (Piece.marked ps)
      if isSpread aim quoted name then
        let texts := s.arguments.map String.toList
        return spreadPieces quoted <|
          if atEnd then (trimEnds? g longest texts).getD texts else trimStarts g longest texts
      let text := (value.getD "").toList
      return resultPieces aim quoted <|
        if atEnd then (Glob.dropEnd? g longest text).getD text else Glob.dropStart g longest text
    | .meaningless => fail "Bad substitution"

end

/-- The fields of a word. -/
def expandFields (capture : Command → Run (List Char)) (w : Word) : Run (List String) := do
  let ps ← expandParts capture ⟨true, false⟩ true w
  let s ← get
  let fields := fieldsOf s.separators ps
  return fields.flatMap fun m =>
    let plain := String.ofList (m.map (·.1))
    if s.has 'f' then [plain]
    else
      match Glob.paths s.files s.workDir m with
      | [] => [plain]
      | paths => paths

/-- The fields of words. -/
def expandWords (capture : Command → Run (List Char)) (ws : List Word) : Run (List String) := do
  return (← ws.mapM (expandFields capture)).flatten

/-- The text of a word that is not cut into fields. -/
def expandText (capture : Command → Run (List Char)) (w : Word) : Run String := do
  return String.ofList (Piece.text (← expandParts capture ⟨false, false⟩ true w))

/-- The text of a document. -/
def expandDocument (capture : Command → Run (List Char)) (w : Word) : Run String := do
  return String.ofList (Piece.text (← expandParts capture ⟨false, false⟩ false w))

/-- The value of an assignment. -/
def expandAssigned (capture : Command → Run (List Char)) (w : Word) : Run String := do
  let s ← get
  let rec go : Bool → List Part → Run (List Piece)
    | _, [] => return []
    | first, .text cs :: ps => do
      -- a tilde counts at the start and after colons
      let whole := ps.isEmpty
      let here :=
        if first then s.assignedPieces whole (cs.length + 1) cs
        else
          let before := cs.takeWhile (· != ':')
          match cs.drop before.length with
          | [] => Piece.bare false before
          | _ :: after =>
            Piece.bare false (before ++ [':']) ++ s.assignedPieces whole (after.length + 1) after
      return here ++ (← go false ps)
    | _, p :: ps => do
      let here ← expandPart capture ⟨false, false⟩ false ps.isEmpty p
      return here ++ (← go false ps)
  return String.ofList (Piece.text (← go true w))

/-- The pattern that a word writes. -/
def expandPattern (capture : Command → Run (List Char)) (w : Word) : Run (List Glob) := do
  return Glob.ofMarked (Piece.marked (← expandParts capture ⟨false, false⟩ true w))

end BenchRoster.Shell
