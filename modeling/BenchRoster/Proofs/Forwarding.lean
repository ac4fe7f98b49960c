/-
# Adapters that forward

Between a handle and a loaded backend stand an adapter and a loader, and neither does more than pass
calls on: the adapter chooses the arguments once, when it makes the invocation, and the loader the
source.

* `Adapter.Forwards` says that whatever an adapter makes calls its handle with arguments that were
  chosen before, and that the adapter itself leaves alone what the program keeps;
* `Adapter.forwards_forward` and `Adapter.forwards_command` are its cases;
* `Loader.exists_of_load_ok` says what a loaded backend is made of.
-/
import BenchRoster.Proofs.Sweep

namespace BenchRoster

variable {τ : Type}

/-! ## Adapters -/

/-- Every invocation that the adapter makes calls its handle with the arguments of one of the
requests, and making it changes nothing that the program keeps. -/
structure Adapter.Forwards (requests : List String → Prop) (a : Adapter τ) : Prop where
  call : ∀ {h : Handle τ} {w v : World τ} {i : Invocation τ}, a h w = (.done i, v) →
    ∃ args, requests args ∧ i.call = fun source => h source args
  ambient : ∀ (h : Handle τ) (w : World τ), (a h w).2.ambient = w.ambient

namespace Adapter

/-- The requests of a command-line transformer: its arguments, which an options file follows if
there are options. -/
def commandRequests (args : List String) (options : Option Options) (flag : String)
    (request : List String) : Prop :=
  match options with
  | none => request = args
  | some _ => ∃ dir, request = args ++ optionsArgs flag dir

lemma forwards_forward (args : List String) : Forwards (· = args) (forward τ args) where
  call h := by
    cases h
    exact ⟨args, rfl, rfl⟩
  ambient _ _ := rfl

/-- The adapter of a command-line transformer with options: it has an options file, or fails. -/
lemma command_some (args : List String) (o : Options) (flag : String) (h : Handle τ)
    (w : World τ) :
    command τ args (some o) flag h w =
      match prepareOptions o w.machine with
      | (.ok dir, m) =>
        (.done
          { call := fun source => h source (args ++ optionsArgs flag dir),
            release := fun w => { w with machine := w.machine.removeDirectory dir } },
          { w with machine := m })
      | (.error e, m) => (.failed e, { w with machine := m }) := by
  rcases hp : prepareOptions o w.machine with ⟨e | dir, m⟩
  · exact Action.bind_failed (by simp [Action.onMachine, hp, Outcome.ofExcept])
  · exact Action.bind_done (by simp [Action.onMachine, hp, Outcome.ofExcept])

lemma forwards_command (args : List String) (options : Option Options) (flag : String) :
    Forwards (commandRequests args options flag) (command τ args options flag) := by
  cases options with
  | none => exact forwards_forward args
  | some o =>
    constructor
    · intro h w v i hi
      rw [command_some] at hi
      split at hi
      · rename_i dir m hp
        cases hi
        exact ⟨_, ⟨dir, rfl⟩, rfl⟩
      · cases hi
    · intro h w
      rw [command_some]
      split <;> rfl

end Adapter

/-! ## Loads -/

namespace Loader

/-- An attempt that is made has found a handle, and adapted it. -/
lemma exists_of_attempt_done {l : Loader τ} {d : Descriptor τ} {w v : World τ} {i : Invocation τ}
    (h : l.attempt d w = (.done i, v)) :
    ∃ a u, l.resolver d.locator w = (.done a, u) ∧ d.adapter a u = (.done i, v) := by
  rcases hr : l.resolver d.locator w with ⟨a | e | p, u⟩
  · rw [attempt_done hr, Action.mapError] at h
    refine ⟨a, u, rfl, ?_⟩
    rcases ha : d.adapter a u with ⟨j | e | p, t⟩ <;> rw [ha] at h <;> cases h
    rfl
  · rw [attempt_failed hr] at h
    cases h
  · rw [attempt_panicked hr] at h
    cases h

/-- A loaded backend is an invocation of the handle that was found, bound to the workload. -/
lemma exists_of_load_ok {l : Loader τ} {d : Descriptor τ} {w : World τ} {b : LoadedBackend τ}
    (h : (l.load d w).1 = .ok b) :
    ∃ a u i v, l.resolver d.locator { w with alarm := w.alarm.beginLoading } = (.done a, u) ∧
      d.adapter a u = (.done i, v) ∧ b = i.bound d.name l.workload.source := by
  rcases ht : l.attempt d { w with alarm := w.alarm.beginLoading } with ⟨i | e | p, v⟩
  · rw [fst_load_ok (by rw [ht]; rfl)] at h
    obtain ⟨a, u, hr, ha⟩ := exists_of_attempt_done ht
    exact ⟨a, u, i, v, hr, ha, (Except.ok.inj h).symm⟩
  · rw [fst_load_error (by rw [ht]; rfl)] at h
    cases h
  · rw [fst_load_error (by rw [ht]; rfl)] at h
    cases h

/-- Each load of a list is one in some world. -/
lemma exists_load_of_mem {l : Loader τ} {ds : List (Descriptor τ)} {w : World τ} {a : Load τ}
    (h : a ∈ (l.loadAll ds w).1) :
    a.descriptor ∈ ds ∧ ∃ v, a.answer = (l.load a.descriptor v).1 := by
  induction ds generalizing w with
  | nil => cases h
  | cons d ds ih =>
    rcases List.mem_cons.1 h with rfl | h
    · exact ⟨List.mem_cons_self, w, rfl⟩
    · obtain ⟨hd, hv⟩ := ih h
      exact ⟨List.mem_cons_of_mem _ hd, hv⟩

end Loader

/-- A backend that was loaded is that of a load. -/
lemma exists_of_mem_loaded {as : List (Load τ)} {b : LoadedBackend τ} (h : b ∈ loaded as) :
    ∃ a ∈ as, a.answer = .ok b := by
  obtain ⟨a, ha, hb⟩ := List.mem_filterMap.1 h
  refine ⟨a, ha, ?_⟩
  obtain ⟨d, f | c⟩ := a
  · cases hb
  · cases hb
    rfl

end BenchRoster
