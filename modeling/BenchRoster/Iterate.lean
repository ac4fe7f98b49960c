/-
# Repeating a step on shrinking input

Readers take pieces from the front of an input until they decide to stop.  The repetition below ends
because it goes on only when a step has left less input than it was given.
-/

namespace BenchRoster

/-- Repeats a step while it asks to go on, by answering a new state, and leaves less input. -/
def iterate {ε σ ρ : Type} (size : ρ → Nat) (step : σ → ρ → Except ε (Option σ × ρ))
    (s : σ) (r : ρ) : Except ε (σ × ρ) :=
  match step s r with
  | .error e => .error e
  | .ok (none, r') => .ok (s, r')
  | .ok (some s', r') => if size r' < size r then iterate size step s' r' else .ok (s', r')
termination_by size r

section

variable {ε σ ρ : Type} {size : ρ → Nat} {step : σ → ρ → Except ε (Option σ × ρ)}
  {s s' : σ} {r r' : ρ} {e : ε}

theorem iterate_error (h : step s r = .error e) : iterate size step s r = .error e := by
  rw [iterate, h]

theorem iterate_stop (h : step s r = .ok (none, r')) : iterate size step s r = .ok (s, r') := by
  rw [iterate, h]

theorem iterate_go (h : step s r = .ok (some s', r')) (hlt : size r' < size r) :
    iterate size step s r = iterate size step s' r' := by
  rw [iterate, h]
  simp [hlt]

end

end BenchRoster
