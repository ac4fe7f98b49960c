/-
# Parts of a script that run on their own

A subshell works on a state of its own, of which only what others can see comes back.  It ends with
a command for the end, if there is one.
-/
import BenchRoster.Shell.State

namespace BenchRoster.Shell

/-- Ends the shell if its last status is bad, nothing looks at it, and this is asked for. -/
def checkStatus (tested : Bool) : Run Unit := do
  let s ← get
  if !tested && s.status != 0 && s.has 'e' then throw .exit

/-- Runs a part to its end and then the command for the end, and answers how it ended. -/
def ending (atEnd body : Run Unit) : Run ExitStatus := fun s =>
  let finish (t : State) : EStateM.Result Jump State ExitStatus :=
    match atEnd t with
    | .error (.signal k whole) t => .error (.signal k whole) t
    | .error .exhausted t => .error .exhausted t
    | .error _ t => .ok (.code (t.status % 256)) t
    | .ok _ t => .ok (.code (t.status % 256)) t
  match body s with
  | .error (.signal k whole) t => .error (.signal k whole) t
  | .error .exhausted t => .error .exhausted t
  | .error _ t => finish t
  | .ok _ t => finish t

/-- Runs a part of the shell on its own, and answers how it ended.  A signal to the shell ends both;
a part that takes too many steps is cut off if `cut` says so. -/
def inSubshell (cut : Bool) (body : Run ExitStatus) : Run ExitStatus := fun s =>
  let start := if cut then { s.inSubshell with steps := s.steps / 2 } else s.inSubshell
  let spare := s.steps - start.steps
  let back (t : State) : State :=
    let s := s.afterSubshell t
    { s with steps := s.steps + spare }
  match body start with
  | .ok e t => .ok e (back t)
  | .error (.signal k false) t => .ok (.signal k) (back t)
  | .error .exhausted t => if cut then .ok (.signal 13) (back t) else .error .exhausted (back t)
  | .error j t => .error j (back t)

/-- Runs another shell, and answers how it ended. -/
def inShell (child : State) (body : Run ExitStatus) : Run ExitStatus := fun s =>
  let back (t : State) : State :=
    { s with files := t.files, handles := t.handles, nextId := t.nextId, steps := t.steps }
  match body child with
  | .ok e t => .ok e (back t)
  | .error (.signal k _) t => .ok (.signal k) (back t)
  | .error j t => .error j (back t)

/-- Answers whether something went well; a fault is no more than that. -/
def succeeds (body : Run Unit) : Run Bool := fun s =>
  match body s with
  | .ok _ t => .ok true t
  | .error .fault t => .ok false t
  | .error j t => .error j t

end BenchRoster.Shell
