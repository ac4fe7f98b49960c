/-
# Alarms

A panic is heard by the listener that is installed at that moment.  While a backend is loading its
panics are contained, and so the first load puts a muting listener in front of the one it finds:
that one hears nothing as long as something is loading.
-/

namespace BenchRoster

/-- What a panic carries. -/
inductive Payload where
  /-- A text that is part of the program. -/
  | fixed (text : String)
  /-- A text that was put together when the panic arose. -/
  | formatted (text : String)
  /-- Anything but a text. -/
  | other
deriving DecidableEq, Repr

/-- The text of a panic, as far as it has one. -/
def Payload.message : Payload → String
  | fixed text => text
  | formatted text => text
  | other => "unknown panic payload"

/-- What hears panics. -/
inductive Listener where
  /-- The listener of a program that has installed none. -/
  | standard
  /-- A listener of the program, known by a number. -/
  | installed (id : Nat)
  /-- Passes panics on to the listener before it, except while something is loading. -/
  | muting (before : Listener)
deriving DecidableEq, Repr

/-- The installed listener that hears a panic, if one does. -/
def Listener.hears? (loading : Bool) : Listener → Option Nat
  | standard => none
  | installed id => some id
  | muting before => if loading then none else before.hears? loading

/-- The listener, whether something is loading, and what has been heard. -/
structure Alarm where
  listener : Listener := .standard
  /-- Whether the muting listener has been put in front. -/
  muted : Bool := false
  loading : Bool := false
  /-- The panics heard by installed listeners, with the number of the listener. -/
  heard : List (Nat × Payload) := []
deriving DecidableEq, Repr

namespace Alarm

/-- Installs a listener in place of the one that is there. -/
def install (a : Alarm) (id : Nat) : Alarm := { a with listener := .installed id }

/-- Lets a panic be heard. -/
def sound (a : Alarm) (p : Payload) : Alarm :=
  match a.listener.hears? a.loading with
  | some id => { a with heard := a.heard ++ [(id, p)] }
  | none => a

/-- Puts the muting listener in front, once and for all. -/
def mute (a : Alarm) : Alarm :=
  if a.muted then a else { a with listener := .muting a.listener, muted := true }

/-- Begins a load. -/
def beginLoading (a : Alarm) : Alarm := { a.mute with loading := true }

/-- Ends a load: whether something is loading is again as it was before. -/
def endLoading (a : Alarm) (before : Bool) : Alarm := { a with loading := before }

/-- Behind a muting listener nothing is heard while something is loading. -/
theorem sound_of_muting {a : Alarm} {l : Listener} {p : Payload} (hl : a.listener = .muting l)
    (h : a.loading = true) : a.sound p = a := by
  simp [sound, hl, h, Listener.hears?]

end Alarm

end BenchRoster
