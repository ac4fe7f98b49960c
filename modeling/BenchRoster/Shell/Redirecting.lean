/-
# Carrying out redirections

The words of redirections are expanded first, but for documents; then the descriptors are connected
in order, up to the first one that cannot be.
-/
import BenchRoster.Shell.Expansion
import BenchRoster.Shell.Frame

namespace BenchRoster.Shell

/-- What a redirection is told by its word: a path, a document that is still to be expanded, or a
descriptor, or that there is to be none. -/
inductive Target where
  | path (t : String)
  | document (w : Word)
  | descriptor (n : Option Nat)

/-- Expands the word of a redirection. -/
def targetOf (capture : Command → Run (List Char)) (r : Redirection Word) :
    Run (Redirection Target) := do
  match r.direction with
  | .document _ => return { r with word := .document r.word }
  | .duplicate => do
    let t ← expandText capture r.word
    match t.toList with
    | ['-'] => return { r with word := .descriptor none }
    | [c] =>
      if c.isDigit then return { r with word := .descriptor (some (c.toNat - 48)) }
    | _ => pure ()
    modify fun s => { s with line := s.lineRead }
    fail "Syntax error: Bad fd number"
  | _ => return { r with word := .path (← expandText capture r.word) }

/-- Carries out a redirection. -/
def redirect (capture : Command → Run (List Char)) (r : Redirection Target) : Run Unit := do
  match r.word with
  | .path t => connect r.descriptor (some (← openFor r.direction t))
  | .document w =>
    let handle ← openPipe (Octets.toBytes (← expandDocument capture w).toList)
    connect r.descriptor (some ⟨handle, true, false⟩)
  | .descriptor none => connect r.descriptor none
  | .descriptor (some n) =>
    match (← get).toProcess.descriptor? n with
    | some d => connect r.descriptor (some d)
    | none => fail s!"{n}: Bad file descriptor"

/-- Carries out redirections in order; the answer is whether all of them could be. -/
def redirectAll (capture : Command → Run (List Char)) (rs : List (Redirection Word)) :
    Run Bool := do
  let targets ← rs.mapM (targetOf capture)
  succeeds (targets.forM (redirect capture))

end BenchRoster.Shell
