/-
# Actions in a world

Resolvers, adapters and backends act on a world: the alarm that hears panics, the machine with its
files and programs, and whatever else a program keeps, of a type `τ` that nothing here looks into.
An action ends with a value, with an error, or with a panic, and leaves a world in each case.
-/
import BenchRoster.Alarm
import BenchRoster.Machine

namespace BenchRoster

/-- What actions act on. -/
structure World (τ : Type) where
  alarm : Alarm := {}
  machine : Machine
  ambient : τ

/-- How an action ends. -/
inductive Outcome (ε α : Type) where
  | done (value : α)
  | failed (error : ε)
  | panicked (payload : Payload)
deriving DecidableEq, Repr

namespace Outcome

def mapError {ε δ α : Type} (f : ε → δ) : Outcome ε α → Outcome δ α
  | done a => done a
  | failed e => failed (f e)
  | panicked p => panicked p

def ofExcept {ε α : Type} : Except ε α → Outcome ε α
  | .ok a => done a
  | .error e => failed e

end Outcome

/-- An action. -/
def Action (τ ε α : Type) : Type := World τ → Outcome ε α × World τ

namespace Action

variable {τ ε δ α β : Type}

/-- Does nothing. -/
def pure (a : α) : Action τ ε α := fun w => (.done a, w)

/-- Goes on with the value of an action; an error or a panic ends both. -/
def bind (x : Action τ ε α) (f : α → Action τ ε β) : Action τ ε β := fun w =>
  match x w with
  | (.done a, w) => f a w
  | (.failed e, w) => (.failed e, w)
  | (.panicked p, w) => (.panicked p, w)

instance : Monad (Action τ ε) where
  pure := pure
  bind := bind

def fail (e : ε) : Action τ ε α := fun w => (.failed e, w)

/-- Panics; the alarm is sounded on the way. -/
def panic (p : Payload) : Action τ ε α := fun w =>
  (.panicked p, { w with alarm := w.alarm.sound p })

def ofExcept (x : Except ε α) : Action τ ε α := fun w => (.ofExcept x, w)

def mapError (f : ε → δ) (x : Action τ ε α) : Action τ δ α := fun w =>
  ((x w).1.mapError f, (x w).2)

/-- Acts on the machine alone. -/
def onMachine (f : Machine → Except ε α × Machine) : Action τ ε α := fun w =>
  (.ofExcept (f w.machine).1, { w with machine := (f w.machine).2 })

/-- Looks at the machine. -/
def machine : Action τ ε Machine := fun w => (.done w.machine, w)

/-- Changes what the program keeps. -/
def modify (f : τ → τ) : Action τ ε Unit := fun w => (.done (), { w with ambient := f w.ambient })

@[simp] theorem pure_apply (a : α) (w : World τ) : (pure a : Action τ ε α) w = (.done a, w) := rfl

@[simp] theorem fail_apply (e : ε) (w : World τ) :
    (fail e : Action τ ε α) w = (.failed e, w) := rfl

theorem bind_done {x : Action τ ε α} {f : α → Action τ ε β} {w v : World τ} {a : α}
    (h : x w = (.done a, v)) : (x.bind f) w = f a v := by
  simp [bind, h]

theorem bind_failed {x : Action τ ε α} {f : α → Action τ ε β} {w v : World τ} {e : ε}
    (h : x w = (.failed e, v)) : (x.bind f) w = (.failed e, v) := by
  simp [bind, h]

theorem bind_panicked {x : Action τ ε α} {f : α → Action τ ε β} {w v : World τ} {p : Payload}
    (h : x w = (.panicked p, v)) : (x.bind f) w = (.panicked p, v) := by
  simp [bind, h]

end Action

end BenchRoster
